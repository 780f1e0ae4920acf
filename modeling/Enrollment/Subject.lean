import Enrollment.Audit
import Enrollment.Named

/-! # Subjects

A subject of the catalogue, with its code, its name, its credits and the kind of its classes. -/

namespace Enrollment

/-- What the classes of a subject are. -/
inductive SubjectType where
  | theory
  | lab
deriving DecidableEq, Repr

instance : Named SubjectType where
  all := [.theory, .lab]
  name
    | .theory => "THEORY"
    | .lab => "LAB"

/-- A subject of the catalogue. -/
structure Subject where
  audit : Audit
  codeName : String
  name : String
  credits : Int16
  subjectType : SubjectType
deriving DecidableEq, Repr

instance : Audited Subject := ⟨Subject.audit⟩

end Enrollment
