import Enrollment.Store.Integrity
import Mathlib.Data.List.Pairwise

/-! # Stores that conform to the schema

A store conforms if each of its rows meets the conditions of its columns, no two rows agree on a
unique index, and what a row refers to is stored. A store keeps no sign of a zero, and none of the
three depends on that sign.

* `Conforms.eq_of_isAt`: a table has one row at most under an identifier.
* `Conforms.exists_isAt`: what a row refers to is stored.
* `Conforms.exists_split`: a store is what stands before a row, the row, and what stands after it.
* `Conforms.filter`: rows to which no row refers that stays may be left out. -/

namespace Enrollment.Store

namespace Row

/-! ### Rows without the sign of a zero -/

theorem cell_settled {r : Row} {c : Column} (hm : c ≠ .minGrade) (hg : c ≠ .grade) :
    r.settled.cell c = r.cell c := by
  cases r
  case prerequisite => cases c <;> first | rfl | exact absurd rfl hm
  case course => cases c <;> first | rfl | exact absurd rfl hg
  all_goals rfl

/-- A cell that loses something is a number, and loses the sign of a zero. -/
theorem cell_settled_cases (r : Row) (c : Column) : r.settled.cell c = r.cell c ∨
    ∃ x, r.cell c = .real x ∧ r.settled.cell c = .real x.unsignedZero := by
  by_cases hm : c = .minGrade
  · subst hm
    cases r
    case prerequisite r => exact Or.inr ⟨r.minGrade, rfl, rfl⟩
    all_goals exact Or.inl rfl
  by_cases hg : c = .grade
  · subst hg
    cases r
    case course r =>
      cases hx : r.grade with
      | none => left; simp [settled, cell, cells, ownCells, hx]
      | some x =>
        right
        exact ⟨x, by simp [cell, cells, ownCells, hx, Cell.ofOption],
          by simp [settled, cell, cells, ownCells, hx, Cell.ofOption]⟩
    all_goals exact Or.inl rfl
  · exact Or.inl (cell_settled hm hg)

theorem isNumber_unsignedZero (x : Binary32) : x.unsignedZero.isNumber = x.isNumber := by
  unfold Binary32.unsignedZero
  split <;> rename_i h
  · simp only [Binary32.isNumber, h]; rfl
  · rfl

theorem admits_unsignedZero (k : Condition) (x : Binary32) :
    k.admits (.real x.unsignedZero) = k.admits (.real x) := by
  cases k
  case realBetween low high =>
    simp only [Condition.admits, Binary32.le, isNumber_unsignedZero, Binary32.key_unsignedZero]
  all_goals rfl

theorem admits_settled (k : Condition) (r : Row) (c : Column) :
    k.admits (r.settled.cell c) = k.admits (r.cell c) := by
  rcases cell_settled_cases r c with h | ⟨x, hr, hs⟩
  · rw [h]
  · rw [hr, hs, admits_unsignedZero]

theorem unmet_settled (r : Row) : r.settled.unmet = r.unmet := by
  simp only [unmet, table_settled, admits_settled]

theorem admits_of_unmet_eq_none {r : Row} {c : ColumnSchema} {k : Condition} (h : r.unmet = none)
    (hc : c ∈ Schema.migrated.columns r.table) (hk : c.condition = some k) :
    k.admits (r.cell c.column) = true := by
  rw [unmet, Option.map_eq_none_iff, List.find?_eq_none] at h
  simpa [hk] using h c hc

/-! ### Rows that agree on a unique index -/

/-- No unique index holds two rows together. -/
def Apart (r q : Row) : Prop := ∀ columns ∈ keys r.table, r.agrees q columns = false

instance (r q : Row) : Decidable (r.Apart q) :=
  inferInstanceAs (Decidable (∀ columns ∈ keys r.table, r.agrees q columns = false))

theorem agrees_iff {r q : Row} {columns : List Column} : r.agrees q columns = true ↔
    r.table = q.table ∧ ∀ c ∈ columns, r.cell c ≠ .null ∧ r.cell c = q.cell c := by
  simp only [agrees, Bool.and_eq_true, List.all_eq_true, decide_eq_true_eq]

theorem agrees_comm (r q : Row) (columns : List Column) :
    r.agrees q columns = q.agrees r columns := by
  rw [Bool.eq_iff_iff, agrees_iff, agrees_iff]
  constructor <;>
  · rintro ⟨ht, h⟩
    exact ⟨ht.symm, fun c hc => ⟨(h c hc).2 ▸ (h c hc).1, (h c hc).2.symm⟩⟩

theorem agrees_of_agrees {r q x : Row} {columns : List Column} (hq : r.agrees q columns = true)
    (hx : r.agrees x columns = true) : q.agrees x columns = true := by
  rw [agrees_iff] at hq hx ⊢
  refine ⟨hq.1.symm.trans hx.1, fun c hc => ?_⟩
  rw [← (hq.2 c hc).2]
  exact hx.2 c hc

theorem Apart.symm {r q : Row} (h : r.Apart q) : q.Apart r := by
  intro columns hc
  rw [agrees_comm]
  by_cases ht : r.table = q.table
  · exact h columns (by rw [ht]; exact hc)
  · simp [agrees, ht]

theorem duplicated_eq_none_iff {r : Row} {others : List Row} :
    r.duplicated others = none ↔ ∀ q ∈ others, r.Apart q := by
  simp only [duplicated, List.find?_eq_none, List.any_eq_true, not_exists, not_and, Apart,
    Bool.not_eq_true]
  exact ⟨fun h q hq columns hc => h columns hc q hq, fun h columns hc q hq => h q hq columns hc⟩

theorem check_eq_ok_iff {r : Row} {others : List Row} :
    r.check others = .ok () ↔ r.unmet = none ∧ ∀ q ∈ others, r.Apart q := by
  rw [← duplicated_eq_none_iff]
  unfold check
  cases r.unmet <;> cases r.duplicated others <;> simp

/-- No unique index is over numbers that may carry a sign of a zero. -/
theorem ne_of_mem_keys {t : Table} {columns : List Column} {c : Column}
    (h : columns ∈ keys t) (hc : c ∈ columns) : c ≠ .minGrade ∧ c ≠ .grade := by
  have key : ∀ columns ∈ keys t, ∀ c ∈ columns, c ≠ .minGrade ∧ c ≠ .grade := by
    cases t <;> decide
  exact key columns h c hc

theorem apart_settled_iff {r q : Row} : r.settled.Apart q ↔ r.Apart q := by
  unfold Apart
  rw [table_settled]
  refine forall₂_congr fun columns hcs => ?_
  have h : ∀ c ∈ columns, r.settled.cell c = r.cell c := fun c hc =>
    cell_settled (ne_of_mem_keys hcs hc).1 (ne_of_mem_keys hcs hc).2
  rw [Bool.eq_false_iff, Bool.eq_false_iff, Ne, Ne, agrees_iff, agrees_iff, table_settled]
  rw [show (∀ c ∈ columns, r.settled.cell c ≠ .null ∧ r.settled.cell c = q.cell c) ↔
    ∀ c ∈ columns, r.cell c ≠ .null ∧ r.cell c = q.cell c from
      forall₂_congr fun c hc => by rw [h c hc]]

/-! ### References -/

/-- Each reference of a row finds a row among the given ones. -/
def Linked (r : Row) (rows : List Row) : Prop :=
  ∀ ref ∈ Schema.migrated.references r.table, r.cell ref.column ≠ .null →
    ∃ q ∈ rows, q.table = ref.target ∧ q.cell .id = r.cell ref.column

instance (r : Row) (rows : List Row) : Decidable (r.Linked rows) :=
  inferInstanceAs (Decidable (∀ ref ∈ Schema.migrated.references r.table,
    r.cell ref.column ≠ .null → ∃ q ∈ rows, q.table = ref.target ∧ q.cell .id = r.cell ref.column))

theorem dangles_eq_false_iff {r : Row} {rows : List Row} :
    r.dangles rows = false ↔ r.Linked rows := by
  simp only [dangles, Linked, List.any_eq_false, Bool.and_eq_true, decide_eq_true_eq, not_and,
    Bool.not_eq_true']
  refine forall₂_congr fun ref _ => imp_congr_right fun _ => ?_
  simp only [not_forall, not_not, exists_prop]

theorem ne_of_mem_references {t : Table} {ref : Reference}
    (h : ref ∈ Schema.migrated.references t) : ref.column ≠ .minGrade ∧ ref.column ≠ .grade := by
  have key : ∀ ref ∈ Schema.migrated.references t,
      ref.column ≠ .minGrade ∧ ref.column ≠ .grade := by
    cases t <;> decide
  exact key ref h

theorem linked_settled_iff {r : Row} {rows : List Row} : r.settled.Linked rows ↔ r.Linked rows := by
  unfold Linked
  rw [table_settled]
  refine forall₂_congr fun ref href => ?_
  rw [cell_settled (ne_of_mem_references href).1 (ne_of_mem_references href).2]

theorem Linked.of_covers {r : Row} {rows rows' : List Row} (h : r.Linked rows)
    (hc : ∀ q ∈ rows, ∃ q' ∈ rows', q'.table = q.table ∧ q'.id = q.id) : r.Linked rows' := by
  intro ref href hne
  obtain ⟨q, hq, ht, hid⟩ := h ref href hne
  obtain ⟨q', hq', ht', hid'⟩ := hc q hq
  exact ⟨q', hq', ht'.trans ht, by rw [← hid, cell_id, cell_id, hid']⟩

theorem Linked.mono {r : Row} {rows rows' : List Row} (h : r.Linked rows)
    (hs : ∀ q ∈ rows, q ∈ rows') : r.Linked rows' :=
  h.of_covers fun q hq => ⟨q, hs q hq, rfl, rfl⟩

theorem isAt_iff {t : Table} {key : Uuid} {r : Row} :
    r.isAt t key = true ↔ r.table = t ∧ r.id = some key := by
  simp [isAt]

theorem not_apart_of_isAt {t : Table} {key : Uuid} {r q : Row} (hr : r.isAt t key = true)
    (hq : q.isAt t key = true) : ¬ r.Apart q := by
  rw [isAt_iff] at hr hq
  intro h
  have hid := h [.id] (List.mem_append_right _ (List.mem_singleton.mpr rfl))
  simp [agrees, hr, hq, cell_id, Cell.ofOption] at hid

instance : Std.Symm Apart := ⟨fun _ _ => Apart.symm⟩

end Row

/-! ### Conforming stores -/

/-- What the schema asks of a store. -/
structure Conforms (s : Store) : Prop where
  conditions : ∀ r ∈ s.rows, r.unmet = none
  apart : s.rows.Pairwise Row.Apart
  linked : ∀ r ∈ s.rows, r.Linked s.rows

instance (s : Store) : Decidable s.Conforms :=
  decidable_of_iff ((∀ r ∈ s.rows, r.unmet = none) ∧ s.rows.Pairwise Row.Apart ∧
    ∀ r ∈ s.rows, r.Linked s.rows)
    ⟨fun ⟨hc, ha, hl⟩ => ⟨hc, ha, hl⟩, fun ⟨hc, ha, hl⟩ => ⟨hc, ha, hl⟩⟩

theorem conforms_empty : Conforms .empty :=
  ⟨fun _ h => absurd h List.not_mem_nil, .nil, fun _ h => absurd h List.not_mem_nil⟩

namespace Conforms

variable {s : Store} {t : Table} {key : Uuid} {r q : Row}

/-- A table has one row at most under an identifier. -/
theorem eq_of_isAt (h : s.Conforms) (hr : r ∈ s.rows) (hq : q ∈ s.rows)
    (hrt : r.isAt t key = true) (hqt : q.isAt t key = true) : r = q := by
  by_contra hne
  exact Row.not_apart_of_isAt hrt hqt (h.apart.forall hr hq hne)

theorem nodup_sectionIds (h : s.Conforms) : (s.sections.map (·.audit.id)).Nodup := by
  rw [List.Nodup, List.pairwise_map, sections, typed, List.pairwise_filterMap]
  refine h.apart.imp fun {r q} hapart a ha b hb hid => ?_
  obtain rfl := RowType.ofRow?_eq_some_iff.mp ha
  obtain rfl := RowType.ofRow?_eq_some_iff.mp hb
  have hat : (Row.section a).isAt .sections a.audit.id = true := Row.isAt_iff.mpr ⟨rfl, rfl⟩
  have hbt : (Row.section b).isAt .sections a.audit.id = true :=
    Row.isAt_iff.mpr ⟨rfl, congrArg some hid.symm⟩
  exact Row.not_apart_of_isAt hat hbt hapart

theorem eq_of_agrees (h : s.Conforms) {columns : List Column} (hr : r ∈ s.rows) (hq : q ∈ s.rows)
    (hc : columns ∈ keys r.table) (hrq : r.agrees q columns = true) : r = q := by
  by_contra hne
  have hapart := h.apart.forall hr hq hne columns hc
  rw [hrq] at hapart
  cases hapart

theorem exists_isAt (h : s.Conforms) (hr : r ∈ s.rows) {ref : Reference}
    (href : ref ∈ Schema.migrated.references r.table) (hcell : r.cell ref.column = .uuid key) :
    ∃ q ∈ s.rows, q.isAt ref.target key = true := by
  obtain ⟨q, hq, ht, hid⟩ := h.linked r hr ref href (by rw [hcell]; nofun)
  rw [hcell, Row.cell_id] at hid
  refine ⟨q, hq, Row.isAt_iff.mpr ⟨ht, ?_⟩⟩
  cases hi : q.id <;> simp_all [Cell.ofOption]

theorem exists_split (h : s.Conforms) (hr : r ∈ s.rows) (hrt : r.isAt t key = true) :
    ∃ before after, s.rows = before ++ r :: after ∧
      ∀ q ∈ before ++ after, q.isAt t key = false := by
  obtain ⟨before, after, hs⟩ := List.append_of_mem hr
  refine ⟨before, after, hs, fun q hq => ?_⟩
  have hp : (r :: (before ++ after)).Pairwise Row.Apart :=
    (List.perm_middle.pairwise_iff Row.Apart.symm).mp (hs ▸ h.apart)
  rw [Bool.eq_false_iff]
  exact fun hqt => Row.not_apart_of_isAt hrt hqt ((List.pairwise_cons.mp hp).1 q hq)

/-- Rows to which no row refers that stays may be left out. -/
theorem filter (h : s.Conforms) {p : Row → Bool}
    (hp : ∀ r ∈ s.rows, p r = true → ∀ q ∈ s.rows, p q = false →
      ∀ ref ∈ Schema.migrated.references r.table, ref.target = q.table →
        r.cell ref.column ≠ .null → q.cell .id ≠ r.cell ref.column) :
    Conforms ⟨s.rows.filter p⟩ where
  conditions r hr := h.conditions r (List.mem_filter.mp hr).1
  apart := h.apart.filter p
  linked r hr := by
    obtain ⟨hr, hpr⟩ := List.mem_filter.mp hr
    intro ref href hne
    obtain ⟨q, hq, ht, hid⟩ := h.linked r hr ref href hne
    cases hpq : p q with
    | true => exact ⟨q, List.mem_filter.mpr ⟨hq, hpq⟩, ht, hid⟩
    | false => exact absurd hid (hp r hr hpr q hq hpq ref href ht.symm hne)

end Conforms

end Enrollment.Store
