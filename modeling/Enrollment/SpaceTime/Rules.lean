import Enrollment.Constraint
import Enrollment.Lookup

/-! # Rules for space times

A space time has a room number of at most 32 characters and a slot. Its room has that slot, and no
other space time is of the same room, day and slot. -/

namespace Enrollment.SpaceTime

def constraints : List (Constraint SpaceTime) :=
  [⟨"room_number", fun s => Constraint.text 32 s.roomNumber⟩,
   ⟨"time_slot", fun s => Constraint.present s.timeSlot⟩]

/-- No other space time is of the room, the day and the slot. -/
def isFree (ctx : Context) (key : SlotKey) : Bool :=
  !(ctx.lookup.spaceTimesAt key).any fun other => ctx.collides other.audit.id

/-- The room has the slot, and the slot is free. -/
def mayEnter (s : SpaceTime) (ctx : Context) : Verdict := do
  let slot ← present s.timeSlot "time_slot"
  require (s.roomType.hasSlot slot) (.rule (.slotOfRoom s.roomType slot))
  match s.slotKey with
  | some key => require (isFree ctx key) (.conflict (.slot key))
  | none => .ok ()

end Enrollment.SpaceTime
