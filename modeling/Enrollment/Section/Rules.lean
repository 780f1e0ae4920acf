import Enrollment.Constraint
import Enrollment.Lookup

/-! # Rules for sections

A section has a subject, a trimester, room for somebody, a counter that is not negative and at least
one space time. The counter is not above the room there is, the references are stored, no space time
is listed twice, the teachers are teachers, and no other section of the trimester has booked one of
the space times. The counter is moved by courses only. -/

namespace Enrollment.Section

def constraints : List (Constraint Section) :=
  [⟨"subject", fun s => Constraint.present s.subjectId⟩,
   ⟨"trimester", fun s => Constraint.present s.trimesterId⟩,
   ⟨"max_capacity", fun s => Constraint.holds .notPositive (0 < s.maxCapacity)⟩,
   ⟨"current_capacity", fun s => Constraint.holds .negative (0 ≤ s.currentCapacity)⟩,
   ⟨"space_times", fun s => Constraint.holds .noSlot (!s.spaceTimeIds.isEmpty)⟩]

/-- The space times are stored, and none of them comes twice or is among those seen before. -/
def checkSlots (l : Lookup) (seen : List Uuid) : List Uuid → Verdict
  | [] => .ok ()
  | id :: ids => do
    require (!seen.contains id) (.rule (.slotOnce id))
    require (l.spaceTime id).isSome (.rule (.exists .spaceTime id))
    checkSlots l (id :: seen) ids

/-- A stored teacher. -/
def checkTeacher (l : Lookup) (id : Uuid) : Verdict :=
  match l.faculty id with
  | some f => require f.canTeach (.rule (.teacherTeaches f.name f.userType))
  | none => .error (.rule (.exists .teacher id))

/-- Stored teachers all. -/
def checkTeachers (l : Lookup) : List Uuid → Verdict
  | [] => .ok ()
  | id :: ids => do checkTeacher l id; checkTeachers l ids

/-- Another section of the trimester that has booked one of the space times, and that space time. -/
def booked (s : Section) (ctx : Context) (trimester : Uuid) : Option (Uuid × Uuid) :=
  ((ctx.lookup.sectionsInTrimester trimester).filter fun other =>
    ctx.collides other.audit.id).findSome? fun other =>
      (s.spaceTimeIds.find? other.uses).map fun slot => (other.audit.id, slot)

/-- A space time in words: its room, day and slot, or its identifier if it has no slot. -/
def describeSlot (l : Lookup) (id : Uuid) : String :=
  (((l.spaceTime id).bind SpaceTime.slotKey).map SlotKey.text).getD id.text

/-- Counter, references, teachers and bookings are right. -/
def mayEnter (s : Section) (ctx : Context) : Verdict := do
  let l := ctx.lookup
  let subject ← present s.subjectId "subject"
  let trimester ← present s.trimesterId "trimester"
  require (s.currentCapacity ≤ s.maxCapacity)
    (.rule (.withinCapacity s.currentCapacity s.maxCapacity))
  require (l.subject subject).isSome (.rule (.exists .subject subject))
  require (l.trimester trimester).isSome (.rule (.exists .trimester trimester))
  checkSlots l [] s.spaceTimeIds
  checkTeachers l s.teacherIds
  match s.booked ctx trimester with
  | some (other, slot) => .error (.conflict (.booking (describeSlot l slot) other))
  | none => .ok ()

/-- The counter stays as it is, and the rest is right. -/
def mayReplace (s old : Section) (ctx : Context) : Verdict := do
  require (s.currentCapacity == old.currentCapacity)
    (.rule (.counterFixed s.audit.id old.currentCapacity s.currentCapacity))
  s.mayEnter ctx

end Enrollment.Section
