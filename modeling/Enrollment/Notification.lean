import Enrollment.Audit
import Enrollment.Named

/-! # Notifications

A notification has a scope, and the scope decides which one of three relations it carries: none, a
trimester, a section or a target user. `Target` is a scope together with its relation, and
`Target.of` builds it from the fields of a notification; a relation that the scope does not allow is
reported before one that it lacks.

* `of_eq_ok_iff`: the fields make a target iff they carry the relation of its scope and no other. -/

namespace Enrollment

/-- Whom a notification concerns. -/
inductive Scope where
  | global
  | trimester
  | section
  | user
deriving DecidableEq, Repr

instance : Named Scope where
  all := [.global, .trimester, .section, .user]
  name
    | .global => "GLOBAL"
    | .trimester => "TRIMESTER"
    | .section => "SECTION"
    | .user => "USER"

/-- The relations that a notification can carry. -/
inductive TargetRelation where
  | trimester
  | section
  | targetUser
deriving DecidableEq, Repr

/-- A relation in words. -/
def TargetRelation.text : TargetRelation → String
  | trimester => "trimester"
  | .section => "section"
  | targetUser => "target user"

/-- The relation that a scope calls for. -/
def Scope.relation : Scope → Option TargetRelation
  | global => none
  | trimester => some .trimester
  | .section => some .section
  | user => some .targetUser

/-- Why a scope does not go with the relations of a notification. -/
inductive ScopeFault where
  | required (scope : Scope) (relation : TargetRelation)
  | notAllowed (scope : Scope) (relation : TargetRelation)
deriving DecidableEq, Repr

/-- The wording of a scope fault. -/
def ScopeFault.message : ScopeFault → String
  | required scope relation =>
    "a " ++ Named.name scope ++ " notification requires a " ++ relation.text
  | notAllowed scope relation =>
    "a " ++ Named.name scope ++ " notification cannot have a " ++ relation.text

/-- A scope with its relation. -/
inductive Target where
  | global
  | trimester (id : Uuid)
  | section (id : Uuid)
  | user (id : Uuid)
deriving DecidableEq, Repr

namespace Target

/-- The relations that are present, in the order in which strays are reported. -/
def present (trimester sec user : Option Uuid) : List TargetRelation :=
  (if trimester.isSome then [.trimester] else []) ++ (if sec.isSome then [.section] else []) ++
    if user.isSome then [.targetUser] else []

/-- The target of a scope and the relations of a notification. -/
def of (scope : Scope) (trimester sec user : Option Uuid) : Except ScopeFault Target :=
  match (present trimester sec user).find? (some · != scope.relation) with
  | some stray => .error (.notAllowed scope stray)
  | none =>
    match scope with
    | .global => .ok .global
    | .trimester =>
      match trimester with
      | some id => .ok (.trimester id)
      | none => .error (.required scope .trimester)
    | .section =>
      match sec with
      | some id => .ok (.section id)
      | none => .error (.required scope .section)
    | .user =>
      match user with
      | some id => .ok (.user id)
      | none => .error (.required scope .targetUser)

def scope : Target → Scope
  | global => .global
  | trimester _ => .trimester
  | .section _ => .section
  | user _ => .user

/-- The relations that belong to a target: trimester, section and user. -/
def relations : Target → Option Uuid × Option Uuid × Option Uuid
  | global => (none, none, none)
  | trimester id => (some id, none, none)
  | .section id => (none, some id, none)
  | user id => (none, none, some id)

theorem of_eq_ok_iff {scope : Scope} {trimester sec user : Option Uuid} {t : Target} :
    of scope trimester sec user = .ok t ↔
      t.scope = scope ∧ t.relations = (trimester, sec, user) := by
  cases t <;> cases scope <;> cases trimester <;> cases sec <;> cases user <;>
    simp [of, present, Scope.relation, Target.scope, relations] <;> exact eq_comm

end Target

/-- A message to everybody, to those of a trimester or a section, or to one user. -/
structure Notification where
  audit : Audit
  scope : Scope
  title : String
  content : String
  trimesterId : Option Uuid
  sectionId : Option Uuid
  targetUserId : Option Uuid
deriving DecidableEq, Repr

instance : Audited Notification := ⟨Notification.audit⟩

/-- The target that the fields of a notification make. -/
def Notification.target (n : Notification) : Except ScopeFault Target :=
  Target.of n.scope n.trimesterId n.sectionId n.targetUserId

end Enrollment
