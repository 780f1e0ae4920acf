import Enrollment.Subject.Rules

/-! # Rules for students and faculty

Users have a name and an address for mail of at most 100 characters each. A student has a number
that is not negative and that no other student has; a member of the faculty is no student. -/

namespace Enrollment

/-- The constraints on the name and the address of a user. A blank address is reported as blank
only. -/
def contactConstraints {α : Type} (name email : α → String) : List (Constraint α) :=
  [⟨"name", fun u => Constraint.text mostInName (name u)⟩,
   ⟨"email", fun u => Constraint.text 100 (email u)⟩,
   ⟨"email", fun u =>
    Constraint.holds .notAnAddress (Text.isBlank (email u) || (email u).toList.contains '@')⟩]

namespace Student

def constraints : List (Constraint Student) :=
  contactConstraints Student.name Student.email ++
    [⟨"university_id", fun s => Constraint.holds .negative (0 ≤ s.universityId)⟩]

/-- No other student has the number. -/
def mayEnter (s : Student) (ctx : Context) : Verdict :=
  require
    (!(ctx.lookup.studentByUniversityId s.universityId).any fun other =>
      ctx.collides other.audit.id)
    (.conflict (.universityId s.universityId))

end Student

namespace Faculty

def constraints : List (Constraint Faculty) := contactConstraints Faculty.name Faculty.email

/-- No student. -/
def mayEnter (f : Faculty) : Verdict := require (f.userType != .student) (.rule .facultyType)

end Faculty

end Enrollment
