import Enrollment.Time.Instant

/-! # Windows and the order of instants

A window is a closed interval of instants. A list of instants, some of them missing, is
chronological if those present do not decrease from one to the next.

* `isChronological_iff_pairwise`: then none of those present is after any that is listed later. -/

namespace Enrollment

/-- A closed interval of instants. -/
structure Window where
  opens : Instant
  closes : Instant
  opens_le_closes : opens ≤ closes
deriving DecidableEq

namespace Window

/-- The window from one instant to another, unless it would close before it opens. -/
def of? (opens closes : Instant) : Option Window :=
  if h : opens ≤ closes then some ⟨opens, closes, h⟩ else none

/-- An instant lies in a window, its two ends included. -/
def contains (w : Window) (t : Instant) : Bool := w.opens ≤ t && t ≤ w.closes

/-- An instant lies in the window between two others iff it is between them. -/
theorem any_contains_of? {opens closes t : Instant} :
    ((of? opens closes).any (·.contains t)) = true ↔ opens ≤ t ∧ t ≤ closes := by
  unfold of?
  split
  · simp [contains]
  · rename_i hlater
    refine iff_of_false (by simp) fun ⟨hopens, hcloses⟩ => hlater ?_
    exact Instant.le_iff.mpr (Int.le_trans hopens hcloses)

end Window

namespace Instant

/-- `t` is still to come at `now`. -/
def isAhead (t now : Instant) : Bool := now < t

/-- `t` has been reached at `now`. -/
def isReached (t now : Instant) : Bool := t ≤ now

/-- No instant is after the next one. -/
def ascending (ts : List Instant) : Bool := (ts.zip ts.tail).all fun (a, b) => a ≤ b

/-- The instants that are present are in order. -/
def isChronological (ts : List (Option Instant)) : Bool := ascending (ts.filterMap id)

theorem ascending_iff_pairwise {ts : List Instant} :
    ascending ts = true ↔ ts.Pairwise (· ≤ ·) := by
  induction ts with
  | nil => exact iff_of_true rfl .nil
  | cons a ts ih =>
    cases ts with
    | nil => exact iff_of_true rfl (List.pairwise_singleton _ a)
    | cons b ts =>
      have hstep : ascending (a :: b :: ts) = (decide (a ≤ b) && ascending (b :: ts)) := rfl
      rw [hstep, Bool.and_eq_true, decide_eq_true_eq, ih, List.pairwise_cons (l := b :: ts)]
      refine and_congr_left fun hts => ⟨fun hab x hx => ?_, fun h => h b List.mem_cons_self⟩
      rcases List.mem_cons.mp hx with rfl | hx
      · exact hab
      · exact le_iff.mpr (Int.le_trans hab ((List.pairwise_cons.mp hts).1 x hx))

/-- **What is missing in between does not matter** to the order of those that are present. -/
theorem isChronological_iff_pairwise {ts : List (Option Instant)} :
    isChronological ts = true ↔ ts.Pairwise fun a b => ∀ x ∈ a, ∀ y ∈ b, x ≤ y := by
  rw [isChronological, ascending_iff_pairwise, List.pairwise_filterMap]
  rfl

theorem isReached_eq_not_isAhead (t now : Instant) : t.isReached now = !t.isAhead now := by
  simp only [isReached, isAhead, le_iff, lt_iff, ← decide_not, Int.not_lt]

end Instant

end Enrollment
