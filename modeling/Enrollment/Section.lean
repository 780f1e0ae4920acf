import Enrollment.Audit

/-! # Sections

A section is an offering of a subject in a trimester. It books space times, has teachers, and counts
how many of its seats are taken. -/

namespace Enrollment

/-- An offering of a subject in a trimester. -/
structure Section where
  audit : Audit
  subjectId : Option Uuid
  trimesterId : Option Uuid
  maxCapacity : Int32
  currentCapacity : Int32
  spaceTimeIds : List Uuid
  teacherIds : List Uuid
deriving DecidableEq, Repr

instance : Audited Section := ⟨Section.audit⟩

namespace Section

/-- No seat is left. -/
def isFull (s : Section) : Bool := s.maxCapacity ≤ s.currentCapacity

/-- The section books a space time. -/
def uses (s : Section) (spaceTime : Uuid) : Bool := s.spaceTimeIds.contains spaceTime

end Section

end Enrollment
