/-! # Enumerations with names

The values of an enumeration have names, and a name belongs to one value only.

* `ofName?_name`: a name reads back as its value.
* `ofName?_eq_some_iff`: nothing but the exact name of a value reads as that value. -/

namespace Enrollment

/-- An enumeration: its values in order, and a name of its own for each. -/
class Named (α : Type) where
  all : List α
  name : α → String
  find_name : ∀ a, (all.find? fun b => name b == name a) = some a := by
    intro a; cases a <;> rfl

namespace Named

variable {α : Type} [Named α]

/-- The value with a name. -/
def ofName? (s : String) : Option α := all.find? fun a => name a == s

theorem ofName?_name (a : α) : ofName? (name a) = some a := find_name a

theorem ofName?_eq_some_iff {s : String} {a : α} : ofName? s = some a ↔ name a = s := by
  constructor
  · intro h; simpa using List.find?_some h
  · rintro rfl; exact ofName?_name a

theorem mem_all (a : α) : a ∈ (all : List α) := List.mem_of_find?_eq_some (find_name a)

theorem name_injective {a b : α} (h : name a = name b) : a = b :=
  Option.some.inj (by rw [← ofName?_name a, h, ofName?_name])

end Named

end Enrollment
