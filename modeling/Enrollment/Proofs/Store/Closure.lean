import Enrollment.Proofs.Prerequisite.Chains
import Enrollment.Proofs.Sample
import Enrollment.Store.Reading
import Mathlib.Data.List.Perm.Basic

/-! # What prerequisites lead to

The store is asked for the prerequisites of some subjects, then for those of the subjects that these
lead to for the first time, and so on until nothing new is met. That makes one question for each
level, whatever branches meet again further on or lead back to where they came from.

* `searched_closeFrom`: level by level, the search comes to an end of its frontier.
* `rows_closeFrom_perm`: each level adds the rows that start at it, and no row comes twice.
* `closure_exact`: what is met is what can be reached, and the rows are those that start there. A
  queue gathers the same arrows from these rows alone as from all that are stored. -/

namespace Enrollment.Store

variable {s : Store} {a b : Uuid}

theorem arrow_requirements_iff : s.requirements.Arrow a b ↔
    ∃ p ∈ s.prerequisites, p.subjectId = a ∧ p.requiredSubjectId = b := by
  simp [Graph.Arrow, requirements]

theorem mem_required_level_iff {level : List Uuid} :
    b ∈ (s.prerequisites.filter (level.contains ·.subjectId)).map (·.requiredSubjectId) ↔
      ∃ a ∈ level, s.requirements.Arrow a b := by
  simp only [arrow_requirements_iff, List.mem_map, List.mem_filter, List.contains_iff_mem]
  constructor
  · rintro ⟨p, ⟨hp, hlevel⟩, rfl⟩
    exact ⟨p.subjectId, hlevel, p, hp, rfl, rfl⟩
  · rintro ⟨_, hlevel, p, hp, rfl, rfl⟩
    exact ⟨p, ⟨hp, hlevel⟩, rfl⟩

/-! ### What is met -/

/-- **Level by level** the search goes on until its frontier is empty. -/
theorem searched_closeFrom {roots seen level : List Uuid}
    (h : s.requirements.Searched roots seen level) :
    s.requirements.Searched roots (s.closeFrom seen level).met [] := by
  have hnext {seen level : List Uuid} (h : s.requirements.Searched roots seen level) :=
    Graph.Searched.next level [] (by rwa [List.append_nil])
      fun y => mem_required_level_iff (s := s) (b := y)
  fun_induction closeFrom s seen level with
  | case1 seen level rows hrows =>
    have h := hnext h
    rwa [hrows] at h
  | case2 seen level rows a next hrows _ rest ih =>
    have h := hnext h
    rw [hrows] at h
    exact ih h

theorem mem_met_iff {roots : List Uuid} :
    b ∈ (s.closure roots).met ↔ ∃ r ∈ roots, s.requirements.Reaches r b :=
  (searched_closeFrom (Graph.searched_start fun _ => Iff.rfl)).mem_seen_iff

theorem nodup_met_closeFrom {seen level : List Uuid} (h : seen.Nodup) :
    (s.closeFrom seen level).met.Nodup := by
  fun_induction closeFrom s seen level with
  | case1 => exact h
  | case2 seen level rows a next hrows _ rest ih =>
    refine ih (List.nodup_append.mpr ⟨hrows ▸ Graph.nodup_newcomers, h, ?_⟩)
    rintro x hx _ hy rfl
    exact (Graph.mem_newcomers_iff.mp (hrows ▸ hx)).2 hy

theorem mem_met_of_mem {seen level : List Uuid} (h : a ∈ seen) :
    a ∈ (s.closeFrom seen level).met := by
  fun_induction closeFrom s seen level with
  | case1 => exact h
  | case2 _ _ _ _ _ _ _ _ ih => exact ih (List.mem_append_right _ h)

/-! ### Which rows come -/

theorem filter_append_filter_perm {α : Type} {l : List α} {p q r : α → Bool}
    (hr : ∀ x ∈ l, r x = (p x || q x)) (hpq : ∀ x ∈ l, p x = true → q x = false) :
    (l.filter p ++ l.filter q).Perm (l.filter r) := by
  have hp : (l.filter r).filter p = l.filter p := by
    rw [List.filter_filter]
    refine List.filter_congr fun x hx => ?_
    rw [hr x hx]
    cases p x <;> rfl
  have hq : (l.filter r).filter (!p ·) = l.filter q := by
    rw [List.filter_filter]
    refine List.filter_congr fun x hx => ?_
    rw [hr x hx]
    cases h : p x
    · rfl
    · exact (hpq x hx h).symm
  rw [← hp, ← hq]
  exact List.filter_append_perm p _

/-- **No row comes twice**: from a level on come the rows that start on it and at what is met after
it, each once. -/
theorem rows_closeFrom_perm {seen level : List Uuid} (hlevel : ∀ x ∈ level, x ∈ seen) :
    (s.closeFrom seen level).rows.Perm (s.prerequisites.filter fun r =>
      level.contains r.subjectId ||
        ((s.closeFrom seen level).met.contains r.subjectId && !seen.contains r.subjectId)) := by
  fun_induction closeFrom s seen level with
  | case1 seen level rows hrows =>
    refine .of_eq (List.filter_congr fun r _ => ?_)
    by_cases h : r.subjectId ∈ seen <;> simp [h]
  | case2 seen level rows a next hrows _ rest ih =>
    have hnew : ∀ x ∈ a :: next, x ∉ seen := fun x hx =>
      (Graph.mem_newcomers_iff.mp (hrows ▸ hx)).2
    have hmet : ∀ x ∈ a :: next, x ∈ rest.met := fun x hx =>
      mem_met_of_mem (List.mem_append_left _ hx)
    have hrest := ih fun x hx => List.mem_append_left _ hx
    refine (hrest.append_left rows).trans (filter_append_filter_perm ?_ ?_)
    · intro r _
      have hnew := hnew r.subjectId
      have hmet := hmet r.subjectId
      have hlevel := hlevel r.subjectId
      rw [Bool.eq_iff_iff]
      simp only [Bool.or_eq_true, Bool.and_eq_true, Bool.not_eq_true', List.contains_eq_mem,
        decide_eq_true_eq, decide_eq_false_iff_not, List.mem_append, not_or]
      tauto
    · intro r _ hr
      have hold : r.subjectId ∈ seen := hlevel _ (List.contains_iff_mem.mp hr)
      have hnext : r.subjectId ∉ a :: next := fun h => hnew _ h hold
      simp only [List.contains_eq_mem, List.mem_append, hold, hnext, or_true, decide_true,
        decide_false, Bool.not_true, Bool.and_false, Bool.or_false]

theorem rows_closure_perm (s : Store) (roots : List Uuid) : (s.closure roots).rows.Perm
    (s.prerequisites.filter fun r => (s.closure roots).met.contains r.subjectId) := by
  have hroots : ∀ x, x ∈ Graph.newcomers [] roots ↔ x ∈ roots := fun x => by
    simp [Graph.mem_newcomers_iff]
  refine (rows_closeFrom_perm fun x hx => (hroots x).mpr hx).trans (.of_eq ?_)
  refine List.filter_congr fun r _ => ?_
  by_cases h : r.subjectId ∈ roots
  · have hmet : r.subjectId ∈ (s.closure roots).met := mem_met_iff.mpr ⟨_, h, .refl⟩
    simp [h, hmet]
  · simp [h, hroots, closure]

theorem mem_rows_closure_iff {roots : List Uuid} {r : PrerequisiteRow} :
    r ∈ (s.closure roots).rows ↔
      r ∈ s.prerequisites ∧ ∃ x ∈ roots, s.requirements.Reaches x r.subjectId := by
  rw [(rows_closure_perm s roots).mem_iff, List.mem_filter, List.contains_iff_mem, mem_met_iff]

/-! ### Requirements of rows -/

theorem arrow_rows_iff {rows : List PrerequisiteRow}
    (hrows : ∀ r : PrerequisiteRow, r.subjectId = a → (r ∈ rows ↔ r ∈ s.prerequisites)) :
    (Graph.ofPrerequisites (rows.map (·.toPrerequisite))).Arrow a b ↔ s.requirements.Arrow a b := by
  rw [Prerequisite.arrow_ofPrerequisites_iff, arrow_requirements_iff]
  simp only [List.mem_map]
  constructor
  · rintro ⟨_, ⟨r, hr, rfl⟩, ha, hb⟩
    have ha : r.subjectId = a := Option.some.inj ha
    exact ⟨r, (hrows r ha).mp hr, ha, Option.some.inj hb⟩
  · rintro ⟨r, hr, rfl, rfl⟩
    exact ⟨_, ⟨r, (hrows r rfl).mpr hr, rfl⟩, rfl, rfl⟩

/-- **What stored prerequisites lead to**, from any subjects, named once or more, and whether the
requirements make cycles or not. Met are the subjects that can be reached, each once, and the rows
are the stored ones that start there, each as often as it is stored. From any of the subjects a
search gathers the same arrows whether it looks up these rows alone or all that are stored, in
whatever order they come. -/
theorem closure_exact (s : Store) (roots : List Uuid) :
    (s.closure roots).met.Nodup ∧
    (∀ a, a ∈ (s.closure roots).met ↔ ∃ r ∈ roots, s.requirements.Reaches r a) ∧
    (s.closure roots).rows.Perm
      (s.prerequisites.filter fun r => (s.closure roots).met.contains r.subjectId) ∧
    ∀ part whole : Lookup,
      part.prerequisites.Perm ((s.closure roots).rows.map (·.toPrerequisite)) →
      whole.prerequisites.Perm (s.prerequisites.map (·.toPrerequisite)) →
      ∀ r ∈ roots, ∀ a b,
        ((Graph.ofPrerequisites part.prerequisites).reach [r]).Arrow a b ↔
          ((Graph.ofPrerequisites whole.prerequisites).reach [r]).Arrow a b := by
  refine ⟨nodup_met_closeFrom Graph.nodup_newcomers, fun a => mem_met_iff,
    rows_closure_perm s roots, fun part whole hpart hwhole r hr a b => ?_⟩
  have hall : ∀ x y, (Graph.ofPrerequisites whole.prerequisites).Arrow x y ↔
      s.requirements.Arrow x y := fun x y =>
    (Prerequisite.arrow_of_perm hwhole x y).trans (arrow_rows_iff fun _ _ => Iff.rfl)
  -- where chains lead to from the subject, all stored arrows have been loaded
  have hloaded : ∀ x, s.requirements.Reaches r x → ∀ y,
      (Graph.ofPrerequisites part.prerequisites).Arrow x y ↔ s.requirements.Arrow x y :=
    fun x hx y => (Prerequisite.arrow_of_perm hpart x y).trans <| arrow_rows_iff fun row hrow =>
      mem_rows_closure_iff.trans (and_iff_left ⟨r, hr, hrow ▸ hx⟩)
  rw [Graph.arrow_reach_congr hloaded, Graph.arrow_reach_congr fun x _ => hall x]

namespace Sample

open Enrollment.Sample

def requirement (n a b : Nat) : Row := .prerequisite ⟨block n, ident a, ident b, Grade.lowest⟩

/-- Branches of two lengths meet again and lead back to the first subject, and one requirement leads
there from elsewhere. -/
def tangled : Store :=
  ⟨[requirement 11 1 2, requirement 12 2 3, requirement 13 1 3, requirement 14 3 1,
    requirement 15 3 4, requirement 16 5 1]⟩

/-- What the first subject, asked for twice, leads to, the last rows first. -/
def loaded : Snapshot :=
  { prerequisites := ((tangled.closure [⟨1⟩, ⟨1⟩]).rows.map (·.toPrerequisite)).reverse }

def stored : Snapshot := { prerequisites := tangled.prerequisites.map (·.toPrerequisite) }

end Sample

theorem closure_of_tangled :
    Sample.loaded.prerequisites.length = 5 ∧ Sample.stored.prerequisites.length = 6 ∧
      ∀ a b, ((Graph.ofPrerequisites Sample.loaded.lookup.prerequisites).reach [⟨1⟩]).Arrow a b ↔
        ((Graph.ofPrerequisites Sample.stored.lookup.prerequisites).reach [⟨1⟩]).Arrow a b :=
  ⟨by decide +kernel, by decide +kernel,
    (closure_exact Sample.tangled [⟨1⟩, ⟨1⟩]).2.2.2 Sample.loaded.lookup Sample.stored.lookup
      (List.reverse_perm _) (.refl _) ⟨1⟩ List.mem_cons_self⟩

end Enrollment.Store
