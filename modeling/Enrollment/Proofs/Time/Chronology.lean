import Enrollment.Time.Window

/-! # The order of instants by their positions

Instants in a list are compared with the next one that is present, however far away that is. That is
enough to order any two of them by their positions, whatever is missing before, between and after
them.

* `le_of_isChronological`: of two instants of a chronological list, the one listed first is not
  after the other.
* `isChronological_iff_ordered`: a list is chronological iff this holds of any two. -/

namespace Enrollment.Instant

variable {ts : List (Option Instant)} {i j : Nat} {x y : Instant}

theorem le_of_isChronological (h : isChronological ts = true) (hij : i < j)
    (hx : ts[i]? = some (some x)) (hy : ts[j]? = some (some y)) : x ≤ y := by
  obtain ⟨hi, hx⟩ := List.getElem?_eq_some_iff.mp hx
  obtain ⟨hj, hy⟩ := List.getElem?_eq_some_iff.mp hy
  have hpairs := List.pairwise_iff_getElem.mp (isChronological_iff_pairwise.mp h)
  exact hpairs i j hi hj hij x hx y hy

/-- **The order of neighbours is the order of all.** A list is chronological iff no instant in it is
after one at a later position. -/
theorem isChronological_iff_ordered {ts : List (Option Instant)} : isChronological ts = true ↔
    ∀ i j : Nat, i < j → ∀ x y : Instant,
      ts[i]? = some (some x) → ts[j]? = some (some y) → x ≤ y := by
  refine ⟨fun h i j hij x y => le_of_isChronological h hij, fun h => ?_⟩
  refine isChronological_iff_pairwise.mpr (List.pairwise_iff_getElem.mpr ?_)
  intro i j hi hj hij x hx y hy
  exact h i j hij x y (List.getElem?_eq_some_iff.mpr ⟨hi, hx⟩)
    (List.getElem?_eq_some_iff.mpr ⟨hj, hy⟩)

/-- A gap does not part the instants around it. -/
example : isChronological [none, some { epoch with second := 1 }, none, some epoch] = false := by
  decide

end Enrollment.Instant
