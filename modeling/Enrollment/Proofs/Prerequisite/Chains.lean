import Enrollment.Prerequisite.Rules
import Mathlib.Logic.Relation

/-! # Chains of arrows

Along a queue exactly the arrows are gathered that start where chains of arrows lead to. A part of
the graph will do for that, as long as it has all arrows that start where chains have led to.

* `Searched.next`: how a search goes on, whatever part of its frontier it turns to.
* `arrow_reach_iff`: the arrows that are gathered are those that can be reached.
* `reaches_congr`: arrows that start elsewhere do not matter.
* `Acyclic.of_arrow`: an arrow may be added if no chain leads back. -/

namespace Enrollment.Graph

open Relation

variable {g g' : Graph} {a b : Uuid}

/-- One subject requires another. -/
def Arrow (g : Graph) (a b : Uuid) : Prop := (a, b) ∈ g.arrows

/-- A chain of arrows, maybe none, leads from one subject to another. -/
def Reaches (g : Graph) : Uuid → Uuid → Prop := ReflTransGen g.Arrow

/-- No chain of arrows leads from a subject back to it. -/
def Acyclic (g : Graph) : Prop := ∀ a, ¬ TransGen g.Arrow a a

/-! ### Gathering -/

/-- How far a search from some roots has come: all that has been seen can be reached, and an arrow
leads to what has not been seen only from the frontier. -/
structure Searched (g : Graph) (roots seen frontier : List Uuid) : Prop where
  roots_seen : ∀ x ∈ roots, x ∈ seen
  reached : ∀ x ∈ seen, ∃ r ∈ roots, g.Reaches r x
  frontier_seen : ∀ x ∈ frontier, x ∈ seen
  closed : ∀ x ∈ seen, x ∉ frontier → ∀ y, g.Arrow x y → y ∈ seen

theorem searched_start {roots frontier : List Uuid} (hfrontier : ∀ x, x ∈ frontier ↔ x ∈ roots) :
    g.Searched roots (newcomers [] roots) frontier := by
  have hseen : ∀ x, x ∈ newcomers [] roots ↔ x ∈ roots := fun x => by simp [mem_newcomers_iff]
  refine ⟨fun x hx => (hseen x).mpr hx, fun x hx => ⟨x, (hseen x).mp hx, .refl⟩,
    fun x hx => (hseen x).mpr ((hfrontier x).mp hx), fun x hx hx' => ?_⟩
  exact absurd ((hfrontier x).mpr ((hseen x).mp hx)) hx'

/-- **A search goes on** at a part of its frontier, and to the rest of it come the subjects that
arrows lead to from there for the first time. -/
theorem Searched.next {roots seen ids : List Uuid} (now rest : List Uuid)
    (h : g.Searched roots seen (now ++ rest)) (hids : ∀ y, y ∈ ids ↔ ∃ x ∈ now, g.Arrow x y) :
    g.Searched roots (newcomers seen ids ++ seen) (rest ++ newcomers seen ids) := by
  refine ⟨fun x hx => List.mem_append_right _ (h.roots_seen x hx), fun y hy => ?_, fun x hx => ?_,
    fun x hx hx' y hxy => ?_⟩
  · rcases List.mem_append.mp hy with hy | hy
    · obtain ⟨x, hx, hxy⟩ := (hids y).mp (mem_newcomers_iff.mp hy).1
      obtain ⟨r, hr, hrx⟩ := h.reached x (h.frontier_seen x (List.mem_append_left _ hx))
      exact ⟨r, hr, hrx.tail hxy⟩
    · exact h.reached y hy
  · rcases List.mem_append.mp hx with hx | hx
    · exact List.mem_append_right _ (h.frontier_seen x (List.mem_append_right _ hx))
    · exact List.mem_append_left _ hx
  · rw [List.mem_append, not_or] at hx'
    have hseen : x ∈ seen := (List.mem_append.mp hx).resolve_left hx'.2
    by_cases hy : y ∈ seen
    · exact List.mem_append_right _ hy
    · -- an arrow that leads to something new comes from the part that the search has turned to
      have hnow : x ∈ now := Classical.byContradiction fun hnow =>
        hy (h.closed x hseen (by simp [hnow, hx'.1]) y hxy)
      exact List.mem_append_left _ (mem_newcomers_iff.mpr ⟨(hids y).mpr ⟨x, hnow, hxy⟩, hy⟩)

/-- A search with no frontier left has seen what can be reached, and nothing else. -/
theorem Searched.mem_seen_iff {roots seen : List Uuid} (h : g.Searched roots seen []) :
    b ∈ seen ↔ ∃ r ∈ roots, g.Reaches r b := by
  refine ⟨h.reached b, ?_⟩
  rintro ⟨r, hr, hrb⟩
  induction hrb with
  | refl => exact h.roots_seen r hr
  | tail _ hxy ih => exact h.closed _ ih List.not_mem_nil _ hxy

theorem arrow_of_mem_gather {seen queue : List Uuid} (h : (a, b) ∈ g.gather seen queue) :
    g.Arrow a b ∧ ∃ x ∈ queue, g.Reaches x a := by
  fun_induction gather g seen queue with
  | case1 => exact absurd h List.not_mem_nil
  | case2 seen x queue next _ ih =>
    rcases List.mem_append.mp h with h | h
    · obtain ⟨y, hy, heq⟩ := List.mem_map.mp h
      obtain ⟨rfl, rfl⟩ := Prod.mk.inj heq
      exact ⟨mem_targets_iff.mp (mem_newcomers_iff.mp hy).1, x, List.mem_cons_self, .refl⟩
    · obtain ⟨hab, y, hy, hya⟩ := ih h
      refine ⟨hab, ?_⟩
      rcases List.mem_append.mp hy with hy | hy
      · exact ⟨y, List.mem_cons_of_mem _ hy, hya⟩
      · have hxy : g.Arrow x y := mem_targets_iff.mp (mem_newcomers_iff.mp hy).1
        exact ⟨x, List.mem_cons_self, hya.head hxy⟩

theorem Searched.mem_gather {roots seen queue : List Uuid} (h : g.Searched roots seen queue)
    (hreach : ∃ r ∈ roots, g.Reaches r a) (hab : g.Arrow a b) :
    a ∈ seen ∧ a ∉ queue ∨ (a, b) ∈ g.gather seen queue := by
  fun_induction gather g seen queue with
  | case1 => exact .inl ⟨h.mem_seen_iff.mpr hreach, List.not_mem_nil⟩
  | case2 seen x queue next _ ih =>
    have hnext : g.Searched roots (next ++ seen) (queue ++ next) :=
      h.next [x] queue fun y => by simp [mem_targets_iff, Arrow]
    by_cases ha : a = x
    · subst ha
      have htarget : b ∈ newcomers [] (g.targets a) :=
        mem_newcomers_iff.mpr ⟨mem_targets_iff.mpr hab, List.not_mem_nil⟩
      exact .inr (List.mem_append_left _ (List.mem_map_of_mem htarget))
    · refine (ih hnext).imp (fun ⟨hseen, hqueue⟩ => ?_) (List.mem_append_right _)
      rw [List.mem_append, not_or] at hqueue
      exact ⟨(List.mem_append.mp hseen).resolve_left hqueue.2, by simp [ha, hqueue.1]⟩

/-! ### Parts of a graph -/

/-- **Arrows that start elsewhere do not matter.** -/
theorem reaches_congr (h : ∀ x, g.Reaches a x → ∀ y, g'.Arrow x y ↔ g.Arrow x y) :
    g'.Reaches a b ↔ g.Reaches a b := by
  constructor
  · intro hab
    induction hab with
    | refl => exact .refl
    | tail _ hxy ih => exact .tail ih ((h _ ih _).mp hxy)
  · intro hab
    induction hab with
    | refl => exact .refl
    | tail hax hxy ih => exact .tail ih ((h _ hax _).mpr hxy)

/-- **The arrows that can be reached** from some roots are those that start where chains lead to. -/
theorem arrow_reach_iff {roots : List Uuid} :
    (g.reach roots).Arrow a b ↔ g.Arrow a b ∧ ∃ x ∈ roots, g.Reaches x a := by
  have hroots : ∀ x, x ∈ newcomers [] roots ↔ x ∈ roots := fun x => by simp [mem_newcomers_iff]
  constructor
  · intro h
    obtain ⟨hab, x, hx, hxa⟩ := arrow_of_mem_gather h
    exact ⟨hab, x, (hroots x).mp hx, hxa⟩
  · rintro ⟨hab, hreach⟩
    exact ((searched_start hroots).mem_gather hreach hab).resolve_left fun h => h.2 h.1

/-- The part that is gathered has all arrows that start where chains lead to. -/
theorem arrow_reach_iff_of_reaches {x : Uuid} (h : g.Reaches a x) (y : Uuid) :
    (g.reach [a]).Arrow x y ↔ g.Arrow x y := by
  rw [arrow_reach_iff]
  exact and_iff_left ⟨a, List.mem_singleton_self a, h⟩

theorem reaches_reach_iff : (g.reach [a]).Reaches a b ↔ g.Reaches a b :=
  reaches_congr fun _ hx y => arrow_reach_iff_of_reaches hx y

/-- What is gathered from a part of a graph is what is gathered from the graph, if the part has all
arrows that start where chains lead to. -/
theorem arrow_reach_congr {r : Uuid}
    (h : ∀ x, g.Reaches r x → ∀ y, g'.Arrow x y ↔ g.Arrow x y) :
    (g'.reach [r]).Arrow a b ↔ (g.reach [r]).Arrow a b := by
  simp only [arrow_reach_iff, List.mem_singleton, exists_eq_left, reaches_congr h]
  exact and_congr_left fun hra => h a hra b

/-! ### Cycles -/

theorem Acyclic.mono (h : g.Acyclic) (hg : ∀ a b, g'.Arrow a b → g.Arrow a b) : g'.Acyclic :=
  fun a ha => h a (TransGen.mono hg a a ha)

theorem Acyclic.of_arrow {x y : Uuid} (h : g.Acyclic) (hback : ¬ g.Reaches y x)
    (hg : ∀ a b, g'.Arrow a b → g.Arrow a b ∨ a = x ∧ b = y) : g'.Acyclic := by
  -- a chain either keeps to the old arrows or takes the new one just once
  have key : ∀ a b, TransGen g'.Arrow a b →
      TransGen g.Arrow a b ∨ g.Reaches a x ∧ g.Reaches y b := by
    intro a b hab
    induction hab with
    | single hab =>
      rcases hg _ _ hab with h | ⟨rfl, rfl⟩
      · exact .inl (.single h)
      · exact .inr ⟨.refl, .refl⟩
    | tail _ hbc ih =>
      rcases hg _ _ hbc with hbc | ⟨rfl, rfl⟩
      · exact ih.imp (·.tail hbc) fun ⟨hax, hyb⟩ => ⟨hax, hyb.tail hbc⟩
      · rcases ih with hab | ⟨-, hyb⟩
        · exact .inr ⟨hab.to_reflTransGen, .refl⟩
        · exact absurd hyb hback
  intro a ha
  rcases key a a ha with ha | ⟨hax, hya⟩
  · exact h a ha
  · exact hback (hya.trans hax)

end Enrollment.Graph

namespace Enrollment.Prerequisite

theorem arrow_ofPrerequisites_iff {ps : List Prerequisite} {a b : Uuid} :
    (Graph.ofPrerequisites ps).Arrow a b ↔
      ∃ p ∈ ps, p.subjectId = some a ∧ p.requiredSubjectId = some b := by
  simp only [Graph.Arrow, Graph.ofPrerequisites, List.mem_filterMap, edge_eq_some_iff]

theorem arrow_of_perm {ps ps' : List Prerequisite} (h : ps.Perm ps') (a b : Uuid) :
    (Graph.ofPrerequisites ps).Arrow a b ↔ (Graph.ofPrerequisites ps').Arrow a b := by
  simp only [arrow_ofPrerequisites_iff, h.mem_iff]

end Enrollment.Prerequisite
