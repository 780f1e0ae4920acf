import Enrollment.Audit
import Enrollment.Named

/-! # Students and faculty

Students have a number at the university. Faculty are the other users; only a teacher can teach. -/

namespace Enrollment

/-- What a user is at the university. -/
inductive UserType where
  | student
  | teacher
  | admin
deriving DecidableEq, Repr

instance : Named UserType where
  all := [.student, .teacher, .admin]
  name
    | .student => "STUDENT"
    | .teacher => "TEACHER"
    | .admin => "ADMIN"

/-- A student. -/
structure Student where
  audit : Audit
  universityId : Int64
  name : String
  email : String
deriving DecidableEq, Repr

instance : Audited Student := ⟨Student.audit⟩

/-- A member of the teaching or administrative staff. -/
structure Faculty where
  audit : Audit
  name : String
  email : String
  userType : UserType
deriving DecidableEq, Repr

instance : Audited Faculty := ⟨Faculty.audit⟩

/-- Only teachers teach. -/
def Faculty.canTeach (f : Faculty) : Bool := f.userType == .teacher

end Enrollment
