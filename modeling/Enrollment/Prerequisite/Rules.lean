import Enrollment.Constraint
import Enrollment.Lookup
import Enrollment.Prerequisite.Search

/-! # Rules for prerequisites

A prerequisite has two ends and a grade on the scale. Its ends are different stored subjects, no
other prerequisite joins them, and no chain of requirements leads back from the required subject.
Its ends never change. -/

namespace Enrollment

/-- A grade on the scale, as a constraint on a field. -/
def Constraint.grade : Constraint.Check Grade := Constraint.reals Grade.lowest Grade.highest

namespace Prerequisite

def constraints : List (Constraint Prerequisite) :=
  [⟨"subject", fun p => Constraint.present p.subjectId⟩,
   ⟨"required_subject", fun p => Constraint.present p.requiredSubjectId⟩,
   ⟨"min_grade", fun p => Constraint.grade p.minGrade⟩]

/-- The cycle that a requirement would close with the stored ones, if it would. -/
def closing (l : Lookup) (subject required : Uuid) : Option (List Uuid) :=
  ((Graph.ofPrerequisites l.prerequisites).reach [required]).cycleThrough subject required

/-- The two ends are stored and different, not joined yet, and not joined in a cycle. -/
def mayEnter (p : Prerequisite) (ctx : Context) : Verdict := do
  let l := ctx.lookup
  let subject ← present p.subjectId "subject"
  let required ← present p.requiredSubjectId "required_subject"
  require (subject != required) (.rule (.noSelfRequirement (l.describe subject)))
  require (l.subject subject).isSome (.rule (.exists .subject subject))
  require (l.subject required).isSome (.rule (.exists .subject required))
  require
    (!(l.prerequisitesOf subject).any fun other =>
      other.requiredSubjectId == some required && ctx.collides other.audit.id)
    (.conflict (.requirement (l.describe subject) (l.describe required)))
  match closing l subject required with
  | some cycle => .error (.rule (.noCycle (cycle.map l.describe)))
  | none => .ok ()

/-- Nothing but the grade may change. -/
def mayReplace (p old : Prerequisite) : Verdict :=
  require (p.edge == old.edge) (.rule .endsFixed)

end Prerequisite

end Enrollment
