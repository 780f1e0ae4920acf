import Enrollment.Course.Rules
import Enrollment.Notification.Rules
import Enrollment.Section.Rules
import Enrollment.SpaceTime.Rules
import Enrollment.Trimester.Rules
import Enrollment.User.Rules

/-! # Reviewing candidates

Every write is reviewed first. A candidate whose fields violate constraints is refused with all of
them, its audit block first; only one without is held against the rules of its kind, and the first
rule it breaks is reported. A candidate that is to replace a stored row has to be of its kind, its
origin and its version before anything else. -/

namespace Enrollment

namespace Entity

/-- The violations of an audit block and of the thing that carries it. -/
def violationsOf {α : Type} [Audited α] (cs : List (Constraint α)) (a : α) : List Violation :=
  Constraint.violations Audit.constraints (audit a) ++ Constraint.violations cs a

/-- The violated constraints of a candidate, in order. -/
def violations : Entity → List Violation
  | subject e => violationsOf Subject.constraints e
  | prerequisite e => violationsOf Prerequisite.constraints e
  | trimester e => violationsOf Trimester.constraints e
  | .section e => violationsOf Section.constraints e
  | spaceTime e => violationsOf SpaceTime.constraints e
  | course e => violationsOf Course.constraints e
  | notification e => violationsOf Notification.constraints e
  | student e => violationsOf Student.constraints e
  | faculty e => violationsOf Faculty.constraints e

/-- The rules of its kind for a new row. -/
def mayEnter (e : Entity) (ctx : Context) : Verdict :=
  match e with
  | subject e => e.mayEnter ctx
  | prerequisite e => e.mayEnter ctx
  | trimester e => e.mayEnter ctx
  | .section e => e.mayEnter ctx
  | spaceTime e => e.mayEnter ctx
  | course e => e.mayEnter ctx
  | notification e => e.mayEnter ctx
  | student e => e.mayEnter ctx
  | faculty e => e.mayEnter

/-- The rules of its kind for a row that replaces another. -/
def mayReplace (new old : Entity) (ctx : Context) : Verdict :=
  match new, old with
  | prerequisite n, prerequisite o => n.mayReplace o
  | .section n, .section o => n.mayReplace o ctx
  | course n, course o => n.mayReplace o ctx
  | notification n, notification o => n.mayReplace o ctx
  | n, _ => n.mayEnter ctx

/-- The candidate is a revision of the stored row: of its kind, its origin and its version. -/
def checkRevision (new old : Entity) : Verdict := do
  require (old.kind == new.kind) (.rule (.kindFixed old.kind new.kind))
  require ((audit old).sameOrigin (audit new)) (.rule .originFixed)
  require ((audit old).version == (audit new).version)
    (.conflict (.stale old.kind (audit old).id (audit new).version (audit old).version))

/-- The verdict on a candidate for a new row. -/
def reviewNew (e : Entity) (l : Lookup) (now : Instant) : Verdict := do
  Verdict.ofViolations e.violations
  e.mayEnter ⟨l, now, none⟩

/-- The verdict on a candidate for replacing a stored row. -/
def reviewRevision (new old : Entity) (l : Lookup) (now : Instant) : Verdict := do
  new.checkRevision old
  Verdict.ofViolations new.violations
  new.mayReplace old ⟨l, now, some (audit old).id⟩

end Entity

end Enrollment
