import Enrollment.Audit
import Enrollment.Grade
import Enrollment.Named

/-! # Courses

A course is the record of one student in one subject in one trimester. Its status decides what else
it carries: a selected course has neither section nor grade, a registered or dropped one has a
section, a completed one has a section and a valid grade. `CourseState` is a status together with
exactly what it carries, and `CourseState.of` builds it from the three fields of a course.

* `of_eq_ok_iff`: the fields make a state iff they are those of the state and its grade is valid. -/

namespace Enrollment

/-- How far a course has come. -/
inductive CourseStatus where
  | selected
  | registered
  | completed
  | dropped
deriving DecidableEq, Repr

instance : Named CourseStatus where
  all := [.selected, .registered, .completed, .dropped]
  name
    | .selected => "SELECTED"
    | .registered => "REGISTERED"
    | .completed => "COMPLETED"
    | .dropped => "DROPPED"

/-- A status with exactly the section and the grade that belong to it. -/
inductive CourseState where
  | selected
  | registered (s : Uuid)
  | completed (s : Uuid) (grade : Grade)
  | dropped (s : Uuid)
deriving DecidableEq, Repr

/-- Why a status does not go with a section and a grade. -/
inductive StateFault where
  | sectionNotAllowed (status : CourseStatus)
  | sectionRequired (status : CourseStatus)
  | gradeNotAllowed (status : CourseStatus)
  | gradeRequired
  | gradeOutOfRange (grade : Grade)
deriving DecidableEq, Repr

/-- The wording of a state fault. -/
def StateFault.message : StateFault → String
  | sectionNotAllowed status => "a " ++ Named.name status ++ " course cannot be assigned a section"
  | sectionRequired status => "a " ++ Named.name status ++ " course must be assigned a section"
  | gradeNotAllowed status => "a " ++ Named.name status ++ " course cannot carry a grade"
  | gradeRequired => "a COMPLETED course must carry a grade"
  | gradeOutOfRange grade => "grade " ++ grade.text ++ " is outside 0.0-4.0"

namespace CourseState

/-- The state of a status, a section and a grade. A fault of the section comes before one of the
grade. -/
def of : CourseStatus → Option Uuid → Option Grade → Except StateFault CourseState
  | .selected, none, none => .ok selected
  | .selected, some _, _ => .error (.sectionNotAllowed .selected)
  | .selected, none, some _ => .error (.gradeNotAllowed .selected)
  | .registered, some s, none => .ok (registered s)
  | .registered, none, _ => .error (.sectionRequired .registered)
  | .registered, some _, some _ => .error (.gradeNotAllowed .registered)
  | .completed, some s, some g =>
    if Grade.isValid g then .ok (completed s g) else .error (.gradeOutOfRange g)
  | .completed, none, _ => .error (.sectionRequired .completed)
  | .completed, some _, none => .error .gradeRequired
  | .dropped, some s, none => .ok (dropped s)
  | .dropped, none, _ => .error (.sectionRequired .dropped)
  | .dropped, some _, some _ => .error (.gradeNotAllowed .dropped)

def status : CourseState → CourseStatus
  | selected => .selected
  | registered _ => .registered
  | completed _ _ => .completed
  | dropped _ => .dropped

def section? : CourseState → Option Uuid
  | selected => none
  | registered s | completed s _ | dropped s => some s

def grade? : CourseState → Option Grade
  | completed _ g => some g
  | _ => none

/-- The section in which the course holds a seat: a registered or completed course holds one. -/
def seat : CourseState → Option Uuid
  | registered s | completed s _ => some s
  | selected | dropped _ => none

theorem of_eq_ok_iff {status : CourseStatus} {sec : Option Uuid} {grade : Option Grade}
    {st : CourseState} : of status sec grade = .ok st ↔
      st.status = status ∧ st.section? = sec ∧ st.grade? = grade ∧
        ∀ g ∈ st.grade?, Grade.isValid g = true := by
  cases st <;> cases status <;> cases sec <;> cases grade <;>
    grind [of, CourseState.status, section?, grade?]

end CourseState

/-- The record of a student in a subject in a trimester. -/
structure Course where
  audit : Audit
  studentId : Option Uuid
  subjectId : Option Uuid
  trimesterId : Option Uuid
  status : CourseStatus
  sectionId : Option Uuid
  grade : Option Grade
deriving DecidableEq, Repr

instance : Audited Course := ⟨Course.audit⟩

/-- The state that the fields of a course make. -/
def Course.state (c : Course) : Except StateFault CourseState :=
  CourseState.of c.status c.sectionId c.grade

end Enrollment
