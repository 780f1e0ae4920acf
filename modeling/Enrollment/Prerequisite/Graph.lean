import Enrollment.Prerequisite

/-! # Requirements as a graph

A graph is a list of arrows between subjects. The arrows that can be reached are gathered with a
queue: the subject at its head gives its arrows, and those to which they lead for the first time
queue up behind the others.

* `mem_newcomers_iff`: the subjects of a list that are new are found, each of them once.
* `unseen_newcomers_le`: each newcomer leaves fewer arrows to subjects that have not been seen,
  which ends a traversal of any graph, with cycles or without. -/

namespace Enrollment

/-- Arrows from subjects to subjects that they require. -/
structure Graph where
  arrows : List (Uuid × Uuid)
deriving DecidableEq, Repr

namespace Graph

/-- The subjects that a subject requires. -/
def targets (g : Graph) (a : Uuid) : List Uuid := (g.arrows.filter (·.1 = a)).map (·.2)

theorem mem_targets_iff {g : Graph} {a b : Uuid} : b ∈ g.targets a ↔ (a, b) ∈ g.arrows := by
  simp only [targets, List.mem_map, List.mem_filter, decide_eq_true_eq, Prod.exists]
  constructor
  · rintro ⟨x, y, ⟨h, rfl⟩, rfl⟩; exact h
  · exact fun h => ⟨a, b, ⟨h, rfl⟩, rfl⟩

/-- The subjects of a list that are not among the seen ones, each once. -/
def newcomers (seen : List Uuid) : List Uuid → List Uuid
  | [] => []
  | a :: ids => if a ∈ seen then newcomers seen ids else a :: newcomers (a :: seen) ids

theorem mem_newcomers_iff {a : Uuid} {seen ids : List Uuid} :
    a ∈ newcomers seen ids ↔ a ∈ ids ∧ a ∉ seen := by
  induction ids generalizing seen with
  | nil => simp [newcomers]
  | cons b ids ih =>
    unfold newcomers
    split <;> rename_i hb
    · rw [ih, List.mem_cons]
      constructor
      · exact fun h => ⟨.inr h.1, h.2⟩
      · rintro ⟨rfl | h, hs⟩
        · exact absurd hb hs
        · exact ⟨h, hs⟩
    · rw [List.mem_cons, ih, List.mem_cons, List.mem_cons]
      constructor
      · rintro (rfl | ⟨h, hs⟩)
        · exact ⟨.inl rfl, hb⟩
        · exact ⟨.inr h, fun h' => hs (.inr h')⟩
      · rintro ⟨rfl | h, hs⟩
        · exact .inl rfl
        · by_cases he : a = b
          · exact .inl he
          · exact .inr ⟨h, by simp [he, hs]⟩

theorem nodup_newcomers {seen ids : List Uuid} : (newcomers seen ids).Nodup := by
  induction ids generalizing seen with
  | nil => exact .nil
  | cons a ids ih =>
    unfold newcomers
    split
    · exact ih
    · exact List.nodup_cons.mpr ⟨fun h => (mem_newcomers_iff.mp h).2 List.mem_cons_self, ih⟩

/-- How many arrows lead to subjects that have not been seen. -/
def unseen (g : Graph) (seen : List Uuid) : Nat := (g.arrows.filter (·.2 ∉ seen)).length

theorem unseen_cons_lt {g : Graph} {seen : List Uuid} {a : Uuid} (ha : a ∉ seen)
    (harrow : ∃ p ∈ g.arrows, p.2 = a) : g.unseen (a :: seen) < g.unseen seen := by
  obtain ⟨p, hp, rfl⟩ := harrow
  have hfilter : g.arrows.filter (·.2 ∉ p.2 :: seen) =
      (g.arrows.filter (·.2 ∉ seen)).filter (·.2 ≠ p.2) := by
    simp [List.filter_filter]
  unfold unseen
  rw [hfilter, List.length_filter_lt_length_iff_exists]
  exact ⟨p, List.mem_filter.mpr ⟨hp, by simpa using ha⟩, by simp⟩

theorem unseen_append_le {g : Graph} {seen new : List Uuid} (hnodup : new.Nodup)
    (hnew : ∀ a ∈ new, a ∉ seen ∧ ∃ p ∈ g.arrows, p.2 = a) :
    g.unseen (new ++ seen) + new.length ≤ g.unseen seen := by
  induction new with
  | nil => exact Nat.le_refl _
  | cons a new ih =>
    obtain ⟨ha, hnodup⟩ := List.nodup_cons.mp hnodup
    obtain ⟨hseen, harrow⟩ := hnew a List.mem_cons_self
    have hlt : g.unseen (a :: (new ++ seen)) < g.unseen (new ++ seen) :=
      unseen_cons_lt (by simp [ha, hseen]) harrow
    have hle := ih hnodup fun b hb => hnew b (List.mem_cons_of_mem _ hb)
    rw [List.cons_append, List.length_cons]
    omega

/-- Newcomers to which arrows lead leave as many arrows fewer that lead to unseen subjects. -/
theorem unseen_newcomers_le {g : Graph} {seen ids : List Uuid}
    (hids : ∀ a ∈ ids, ∃ p ∈ g.arrows, p.2 = a) :
    g.unseen (newcomers seen ids ++ seen) + (newcomers seen ids).length ≤ g.unseen seen :=
  unseen_append_le nodup_newcomers fun a ha =>
    ⟨(mem_newcomers_iff.mp ha).2, hids a (mem_newcomers_iff.mp ha).1⟩

/-- The arrows of the subjects in a queue, each once, and of those that they lead to: the subjects
that are met for the first time join the end of the queue. -/
def gather (g : Graph) (seen queue : List Uuid) : List (Uuid × Uuid) :=
  match queue with
  | [] => []
  | a :: queue =>
    let next := newcomers seen (g.targets a)
    have : g.unseen (next ++ seen) + next.length ≤ g.unseen seen :=
      unseen_newcomers_le fun b hb => ⟨(a, b), mem_targets_iff.mp hb, rfl⟩
    (newcomers [] (g.targets a)).map (a, ·) ++ g.gather (next ++ seen) (queue ++ next)
termination_by g.unseen seen + queue.length
decreasing_by
  simp only [next, List.length_append, List.length_cons] at this ⊢
  omega

/-- The arrows that start at a subject reachable from one of the roots. -/
def reach (g : Graph) (roots : List Uuid) : Graph :=
  let queue := newcomers [] roots
  ⟨g.gather queue queue⟩

/-- The arrows of the prerequisites that have both their ends. -/
def ofPrerequisites (ps : List Prerequisite) : Graph := ⟨ps.filterMap Prerequisite.edge⟩

end Graph

end Enrollment
