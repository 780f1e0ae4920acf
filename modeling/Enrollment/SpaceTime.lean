import Enrollment.Audit
import Enrollment.Named

/-! # Space times

A space time is what a section can book: a room on a day of the week in a numbered slot. How many
slots a day has depends on the type of the room, since laboratory classes run for twice as long. -/

namespace Enrollment

/-- The days of the week. -/
inductive DayOfWeek where
  | monday
  | tuesday
  | wednesday
  | thursday
  | friday
  | saturday
  | sunday
deriving DecidableEq, Repr

instance : Named DayOfWeek where
  all := [.monday, .tuesday, .wednesday, .thursday, .friday, .saturday, .sunday]
  name
    | .monday => "MONDAY"
    | .tuesday => "TUESDAY"
    | .wednesday => "WEDNESDAY"
    | .thursday => "THURSDAY"
    | .friday => "FRIDAY"
    | .saturday => "SATURDAY"
    | .sunday => "SUNDAY"

/-- The letter of a day in a printed timetable. -/
def DayOfWeek.letter : DayOfWeek → String
  | monday => "M"
  | tuesday => "T"
  | wednesday => "W"
  | thursday => "R"
  | friday => "F"
  | saturday => "S"
  | sunday => "U"

/-- What a room is for. -/
inductive RoomType where
  | theory
  | lab
deriving DecidableEq, Repr

instance : Named RoomType where
  all := [.theory, .lab]
  name
    | .theory => "THEORY"
    | .lab => "LAB"

namespace RoomType

/-- The first slot of a day. -/
def firstSlot : RoomType → Int16
  | _ => 1

/-- The last slot of a day. -/
def lastSlot : RoomType → Int16
  | theory => 6
  | lab => 3

/-- The room has the slot. -/
def hasSlot (r : RoomType) (slot : Int16) : Bool := r.firstSlot ≤ slot && slot ≤ r.lastSlot

end RoomType

/-- A room, a day and a slot. -/
structure SlotKey where
  roomNumber : String
  dayOfWeek : DayOfWeek
  timeSlot : Int16
deriving DecidableEq, Repr

/-- A room, a day and a slot in words. -/
def SlotKey.text (k : SlotKey) : String :=
  "room " ++ k.roomNumber ++ " on " ++ k.dayOfWeek.letter ++ " slot " ++ toString k.timeSlot.toInt

/-- A room on a day of the week in a slot, which may still be missing on a candidate. -/
structure SpaceTime where
  audit : Audit
  roomNumber : String
  dayOfWeek : DayOfWeek
  roomType : RoomType
  timeSlot : Option Int16
deriving DecidableEq, Repr

instance : Audited SpaceTime := ⟨SpaceTime.audit⟩

/-- The room, the day and the slot, if there is a slot. -/
def SpaceTime.slotKey (s : SpaceTime) : Option SlotKey :=
  s.timeSlot.map fun slot => ⟨s.roomNumber, s.dayOfWeek, slot⟩

end Enrollment
