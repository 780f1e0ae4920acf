import Enrollment.Constraint
import Enrollment.Lookup

/-! # Rules for trimesters

The year of a trimester is not before 2003. Its code is that of its year and season and no other
trimester has it; its calendar is in order, and allows its status now. -/

namespace Enrollment.Trimester

def constraints : List (Constraint Trimester) :=
  [⟨"year", fun t => Constraint.holds (.before earliestYear) (earliestYear ≤ t.year)⟩]

/-- Code, calendar and status are right, and no other trimester has the code. -/
def mayEnter (t : Trimester) (ctx : Context) : Verdict := do
  require (t.code == t.expectedCode.value)
    (.rule (.codeMatches t.code t.season t.year t.expectedCode))
  require t.calendar.isChronological (.rule .calendarInOrder)
  (t.calendar.allows t.status ctx.now).mapError fun fault => .rule (.phase fault)
  require (!(ctx.lookup.trimesterByCode t.code).any fun other => ctx.collides other.audit.id)
    (.conflict (.trimester t.expectedCode))

end Enrollment.Trimester
