import Enrollment.Trimester

/-! # Phases and the calendar

Which status a trimester may have is a matter of its calendar and the clock. `UPCOMING` ends where
course selection starts; each of the three middle phases is the closed window between two bounds of
the calendar, both of which have to be set; the last two phases begin where section registration
ends, which has to be set. A window whose bounds are the wrong way round holds no instant. -/

namespace Enrollment

/-- The middle phases, each between two bounds of the calendar. -/
inductive Period where
  | courseSelection
  | sectionCreation
  | sectionSelection
deriving DecidableEq, Repr

namespace Period

/-- The status that belongs to a period. -/
def status : Period → TrimesterStatus
  | courseSelection => .courseSelection
  | sectionCreation => .sectionCreation
  | sectionSelection => .sectionSelection

/-- The bounds of a period, in words. -/
def bounds : Period → String
  | courseSelection => "course selection start and end"
  | sectionCreation => "course selection end and section registration start"
  | sectionSelection => "section registration start and end"

/-- The two bounds of a period. -/
def ends (c : Calendar) : Period → Option Instant × Option Instant
  | courseSelection => (c.courseSelectionStart, c.courseSelectionEnd)
  | sectionCreation => (c.courseSelectionEnd, c.sectionRegistrationStart)
  | sectionSelection => (c.sectionRegistrationStart, c.sectionRegistrationEnd)

end Period

/-- Why a calendar does not allow a status at some instant. -/
inductive PhaseFault where
  /-- Course selection has started. -/
  | started (start : Instant)
  /-- A bound of the period is not set. -/
  | boundsUnset (period : Period)
  /-- The instant is not in the period. -/
  | outside (period : Period) (start stop : Instant)
  /-- The end of section registration is not set. -/
  | endUnset (status : TrimesterStatus)
  /-- Section registration has not ended. -/
  | notEnded (status : TrimesterStatus) (stop : Instant)
deriving DecidableEq, Repr

/-- The wording of a phase fault. -/
def PhaseFault.message : PhaseFault → String
  | started start =>
    "UPCOMING is only valid before course selection starts at " ++ start.spoken
  | boundsUnset period =>
    Named.name period.status ++ " requires the " ++ period.bounds ++ " boundaries to be set"
  | outside period start stop =>
    Named.name period.status ++ " is only valid between " ++ start.spoken ++ " and " ++ stop.spoken
  | endUnset status =>
    Named.name status ++ " requires the section registration end to be set"
  | notEnded status stop =>
    Named.name status ++ " is only valid after section registration ends at " ++ stop.spoken

namespace Calendar

/-- The instant lies in a period, whose bounds are set. -/
def checkPeriod (c : Calendar) (p : Period) (now : Instant) : Except PhaseFault Unit :=
  match p.ends c with
  | (some start, some stop) =>
    if (Window.of? start stop).any (·.contains now) then .ok ()
    else .error (.outside p start stop)
  | _ => .error (.boundsUnset p)

/-- Section registration has ended. -/
def checkEnded (c : Calendar) (status : TrimesterStatus) (now : Instant) :
    Except PhaseFault Unit :=
  match c.sectionRegistrationEnd with
  | none => .error (.endUnset status)
  | some stop => if stop.isReached now then .ok () else .error (.notEnded status stop)

/-- The calendar allows a status at an instant. -/
def allows (c : Calendar) (status : TrimesterStatus) (now : Instant) : Except PhaseFault Unit :=
  match status with
  | .upcoming =>
    match c.courseSelectionStart with
    | some start => if start.isAhead now then .ok () else .error (.started start)
    | none => .ok ()
  | .courseSelection => c.checkPeriod .courseSelection now
  | .sectionCreation => c.checkPeriod .sectionCreation now
  | .sectionSelection => c.checkPeriod .sectionSelection now
  | .ongoing | .completed => c.checkEnded status now

end Calendar

end Enrollment
