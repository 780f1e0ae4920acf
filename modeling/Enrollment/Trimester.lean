import Enrollment.Audit
import Enrollment.Named
import Enrollment.Time.Window

/-! # Trimesters

A trimester is a season of an academic year. Its code is the last two digits of the year followed by
the number of the season; the remainder of a negative year is negative, and so is its code. Four
instants of its calendar, any of which may be missing, bound course selection and section
registration. -/

namespace Enrollment

/-- The seasons of an academic year. -/
inductive Season where
  | spring
  | summer
  | fall
deriving DecidableEq, Repr

instance : Named Season where
  all := [.spring, .summer, .fall]
  name
    | .spring => "SPRING"
    | .summer => "SUMMER"
    | .fall => "FALL"

/-- The last digit of a trimester code. -/
def Season.digit : Season → Int32
  | .spring => 1
  | .summer => 2
  | .fall => 3

/-- The code of a trimester. -/
structure TrimesterCode where
  value : Int32
deriving DecidableEq, Repr

namespace TrimesterCode

/-- Two digits of the year, then the digit of the season. -/
def of (year : Int32) (season : Season) : TrimesterCode := ⟨year % 100 * 10 + season.digit⟩

/-- A code in at least three characters, its sign included. -/
def text (c : TrimesterCode) : String :=
  let n := c.value.toInt
  if n < 0 then "-" ++ Instant.padded 2 n.natAbs else Instant.padded 3 n.natAbs

end TrimesterCode

/-- The phases that a trimester goes through. -/
inductive TrimesterStatus where
  | upcoming
  | courseSelection
  | sectionCreation
  | sectionSelection
  | ongoing
  | completed
deriving DecidableEq, Repr

instance : Named TrimesterStatus where
  all := [.upcoming, .courseSelection, .sectionCreation, .sectionSelection, .ongoing, .completed]
  name
    | .upcoming => "UPCOMING"
    | .courseSelection => "COURSE_SELECTION"
    | .sectionCreation => "SECTION_CREATION"
    | .sectionSelection => "SECTION_SELECTION"
    | .ongoing => "ONGOING"
    | .completed => "COMPLETED"

/-- The instants that bound the phases of a trimester. -/
structure Calendar where
  courseSelectionStart : Option Instant
  courseSelectionEnd : Option Instant
  sectionRegistrationStart : Option Instant
  sectionRegistrationEnd : Option Instant
deriving DecidableEq, Repr

namespace Calendar

/-- The bounds in the order in which they have to occur. -/
def boundaries (c : Calendar) : List (Option Instant) :=
  [c.courseSelectionStart, c.courseSelectionEnd, c.sectionRegistrationStart,
    c.sectionRegistrationEnd]

/-- The bounds that are set do occur in that order. -/
def isChronological (c : Calendar) : Bool := Instant.isChronological c.boundaries

end Calendar

/-- A season of an academic year. -/
structure Trimester where
  audit : Audit
  year : Int32
  season : Season
  code : Int32
  status : TrimesterStatus
  calendar : Calendar
deriving DecidableEq, Repr

instance : Audited Trimester := ⟨Trimester.audit⟩

namespace Trimester

/-- The earliest academic year. -/
def earliestYear : Int32 := 2003

/-- The code that belongs to the year and the season. -/
def expectedCode (t : Trimester) : TrimesterCode := .of t.year t.season

end Trimester

end Enrollment
