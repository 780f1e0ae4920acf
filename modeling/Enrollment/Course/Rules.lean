import Enrollment.Lookup
import Enrollment.Prerequisite.Rules
import Enrollment.Section.Seats

/-! # Rules for courses

A course has a student, a subject and a trimester, and its grade, if it has one, is on the scale.
Its fields make a state, its references are stored, its section belongs to its subject and
trimester, the student has no other course in the subject in that trimester, and the section has a
seat for it. -/

namespace Enrollment.Course

def constraints : List (Constraint Course) :=
  [⟨"student", fun c => Constraint.present c.studentId⟩,
   ⟨"subject", fun c => Constraint.present c.subjectId⟩,
   ⟨"trimester", fun c => Constraint.present c.trimesterId⟩,
   ⟨"grade", fun c => c.grade.bind Constraint.grade⟩]

/-- The section is stored and belongs to the subject and the trimester. -/
def checkSection (l : Lookup) (subject trimester id : Uuid) : Verdict :=
  match l.sectionAt id with
  | none => .error (.rule (.exists .section id))
  | some s => do
    require (s.trimesterId == some trimester) (.rule (.sectionOffered id trimester))
    require (s.subjectId == some subject) (.rule (.sectionTeaches id subject))

/-- The section whose seat a move takes, if it is stored, has a seat for it. -/
def checkSeat (l : Lookup) (m : SeatMove) : Verdict :=
  match m.take.bind l.sectionAt with
  | some s => (m.attempt s).2
  | none => .ok ()

/-- State, references, section and seat are right, for a course that had a state or was in none. -/
def check (c : Course) (old : Option CourseState) (ctx : Context) : Verdict := do
  let l := ctx.lookup
  let student ← present c.studentId "student"
  let subject ← present c.subjectId "subject"
  let trimester ← present c.trimesterId "trimester"
  let state ← c.state.mapError fun fault => Refusal.rule (.state fault)
  require (l.student student).isSome (.rule (.exists .student student))
  require (l.subject subject).isSome (.rule (.exists .subject subject))
  require (l.trimester trimester).isSome (.rule (.exists .trimester trimester))
  match state.section? with
  | some id => checkSection l subject trimester id
  | none => .ok ()
  require (!(l.courseFor student subject trimester).any fun other => ctx.collides other.audit.id)
    (.conflict (.course student subject))
  checkSeat l (.between old state)

def mayEnter (c : Course) (ctx : Context) : Verdict := c.check none ctx

/-- The state of the row that is replaced; fields that make no state hold no seat. -/
def mayReplace (c old : Course) (ctx : Context) : Verdict := c.check old.state.toOption ctx

end Enrollment.Course
