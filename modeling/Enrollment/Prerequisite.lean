import Enrollment.Audit
import Enrollment.Grade

/-! # Prerequisites

A prerequisite is an arrow from a subject to one that has to be passed before it, with the least
grade that counts as passing. Either end may still be missing on a candidate. -/

namespace Enrollment

/-- `subjectId` can be taken only after `requiredSubjectId`. -/
structure Prerequisite where
  audit : Audit
  subjectId : Option Uuid
  requiredSubjectId : Option Uuid
  minGrade : Grade
deriving DecidableEq, Repr

instance : Audited Prerequisite := ⟨Prerequisite.audit⟩

/-- The two ends of the arrow, if both are there. -/
def Prerequisite.edge (p : Prerequisite) : Option (Uuid × Uuid) :=
  match p.subjectId, p.requiredSubjectId with
  | some a, some b => some (a, b)
  | _, _ => none

theorem Prerequisite.edge_eq_some_iff {p : Prerequisite} {a b : Uuid} :
    p.edge = some (a, b) ↔ p.subjectId = some a ∧ p.requiredSubjectId = some b := by
  cases ha : p.subjectId <;> cases hb : p.requiredSubjectId <;> simp [edge, ha, hb]

end Enrollment
