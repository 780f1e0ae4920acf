import Enrollment.Constraint
import Enrollment.Lookup

/-! # Rules for notifications

A notification has a title of at most 128 characters and a content of at most 4000. Its relations go
with its scope, its target is stored, a user being a student or a member of the faculty, and its
scope never changes. -/

namespace Enrollment

/-- The target is stored. -/
def Target.isStored (l : Lookup) : Target → Bool
  | .global => true
  | .trimester id => (l.trimester id).isSome
  | .section id => (l.sectionAt id).isSome
  | .user id => (l.student id).isSome || (l.faculty id).isSome

namespace Notification

def constraints : List (Constraint Notification) :=
  [⟨"title", fun n => Constraint.text 128 n.title⟩,
   ⟨"content", fun n => Constraint.text 4000 n.content⟩]

/-- The relations make a target that is stored. -/
def mayEnter (n : Notification) (ctx : Context) : Verdict := do
  let target ← n.target.mapError fun fault => Refusal.rule (.scope fault)
  require (target.isStored ctx.lookup) (.rule (.targetExists target.scope))

/-- The scope stays as it is, and the rest is right. -/
def mayReplace (n old : Notification) (ctx : Context) : Verdict := do
  require (n.scope == old.scope) (.rule (.scopeFixed old.scope n.scope))
  n.mayEnter ctx

end Notification

end Enrollment
