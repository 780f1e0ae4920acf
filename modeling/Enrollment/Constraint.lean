import Enrollment.Refusal
import Enrollment.Text.Blank

/-! # Field constraints

What a field has to be like, apart from everything that is stored. The constraints of a kind are a
list, and a candidate is told of each one it violates, in the order of the list.

* `mem_violations_iff`: exactly the violated constraints are reported.
* `violations_eq_nil_iff`: nothing is reported iff all constraints hold. -/

namespace Enrollment

/-- The defect of a value, if it has one. -/
abbrev Constraint.Check (β : Type) := β → Option Defect

namespace Constraint

/-- The value is there. -/
def present {β : Type} : Check (Option β) := fun b => if b.isSome then none else some .missing

/-- Text that is not blank and has at most so many characters. -/
def text (most : Nat) : Check String := fun s =>
  if Text.isBlank s then some .blank else if most < s.length then some (.tooLong most) else none

/-- A name that is not blank. -/
def named : Check String := fun s => if Text.isBlank s then some .blank else none

/-- A whole number in a closed range. -/
def ints (low high : Int) : Check Int := fun n =>
  if low ≤ n ∧ n ≤ high then none else some (.outsideInts low high)

/-- A number in a closed range. What is not a number is in no range. -/
def reals (low high : Binary32) : Check Binary32 := fun x =>
  if Binary32.le low x && Binary32.le x high then none else some (.outsideReals low high)

/-- A condition, and the defect where it does not hold. -/
def holds (defect : Defect) : Check Bool := fun b => if b then none else some defect

end Constraint

/-- A constraint on one field of a candidate. -/
structure Constraint (α : Type) where
  field : String
  defect : α → Option Defect

namespace Constraint

variable {α β : Type}

/-- The violation of a constraint, if there is one. -/
def violation? (c : Constraint α) (a : α) : Option Violation := (c.defect a).map (⟨c.field, ·⟩)

/-- A constraint of a part is one of the whole. -/
def of (part : α → β) (c : Constraint β) : Constraint α := ⟨c.field, c.defect ∘ part⟩

/-- The violations of a list of constraints, in its order. -/
def violations (cs : List (Constraint α)) (a : α) : List Violation := cs.filterMap (·.violation? a)

theorem mem_violations_iff {cs : List (Constraint α)} {a : α} {v : Violation} :
    v ∈ violations cs a ↔ ∃ c ∈ cs, c.violation? a = some v := by
  simp [violations, List.mem_filterMap]

theorem violations_eq_nil_iff {cs : List (Constraint α)} {a : α} :
    violations cs a = [] ↔ ∀ c ∈ cs, c.defect a = none := by
  simp [violations, List.filterMap_eq_nil_iff, violation?]

end Constraint

/-- Both authors of an audit block have names. -/
def Audit.constraints : List (Constraint Audit) :=
  [⟨"created_by", fun a => Constraint.named a.createdBy⟩,
   ⟨"updated_by", fun a => Constraint.named a.updatedBy⟩]

/-- A list of violations as a verdict: none is no refusal. -/
def Verdict.ofViolations : List Violation → Verdict
  | [] => .ok ()
  | vs => .error (.structural vs)

theorem Verdict.ofViolations_eq_ok_iff {vs : List Violation} :
    Verdict.ofViolations vs = .ok () ↔ vs = [] := by
  cases vs <;> simp [Verdict.ofViolations]

end Enrollment
