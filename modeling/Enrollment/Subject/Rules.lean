import Enrollment.Constraint
import Enrollment.Lookup

/-! # Rules for subjects

A subject has a code of at most 16 characters that no other subject has, a name of at most 100, and
one to five credits. -/

namespace Enrollment

/-- The most characters in the name of a subject or a user. -/
def mostInName : Nat := 100

namespace Subject

def constraints : List (Constraint Subject) :=
  [⟨"code_name", fun s => Constraint.text 16 s.codeName⟩,
   ⟨"name", fun s => Constraint.text mostInName s.name⟩,
   ⟨"credits", fun s => Constraint.ints 1 5 s.credits.toInt⟩]

/-- No other subject has the code. -/
def mayEnter (s : Subject) (ctx : Context) : Verdict :=
  require (!(ctx.lookup.subjectByCode s.codeName).any fun other => ctx.collides other.audit.id)
    (.conflict (.subjectCode s.codeName))

end Subject

end Enrollment
