import Enrollment.Proofs.Outcome
import Enrollment.Proofs.Store.Conformity

/-! # Statements on a conforming store

What a statement leaves of the rows when it succeeds, and that a conforming store is left
conforming. References are looked at, and no other writer comes first.

* `insert_eq_ok`: the new rows stand after the old ones.
* `replace_eq_some`: a row takes the place of the one of its table and identifier.
* `remove_eq_some`: a row is gone, and so are the rows that go with it.
* `remove_ok`, `remove_restricted`: it goes iff nothing refers to it that does not go with it. -/

namespace Enrollment.Store

variable {s s' : Store}

/-! ### Adding rows -/

theorem append_eq_ok_iff {rows rows' : List Row} {r : Row} : append rows r = .ok rows' ↔
    (r.unmet = none ∧ ∀ q ∈ rows, r.Apart q) ∧ rows ++ [r.settled] = rows' := by
  unfold append
  rw [map_eq_ok_iff, ← Row.check_eq_ok_iff]
  exact ⟨fun ⟨_, h, e⟩ => ⟨h, e⟩, fun ⟨h, e⟩ => ⟨(), h, e⟩⟩

theorem foldlM_append {new rows rows' : List Row} (hp : rows.Pairwise Row.Apart)
    (h : new.foldlM append rows = .ok rows') :
    rows' = rows ++ new.map Row.settled ∧ (∀ r ∈ new, r.unmet = none) ∧
      rows'.Pairwise Row.Apart := by
  induction new generalizing rows with
  | nil =>
    obtain rfl := pure_eq_ok_iff.mp h
    exact ⟨by simp, by simp, hp⟩
  | cons r new ih =>
    rw [List.foldlM_cons] at h
    obtain ⟨mid, hmid, h⟩ := bind_eq_ok_iff.mp h
    obtain ⟨⟨hu, ha⟩, rfl⟩ := append_eq_ok_iff.mp hmid
    have hp' : (rows ++ [r.settled]).Pairwise Row.Apart := by
      refine List.pairwise_append.mpr ⟨hp, List.pairwise_singleton _ _, fun q hq x hx => ?_⟩
      obtain rfl := List.mem_singleton.mp hx
      exact (Row.apart_settled_iff.mpr (ha q hq)).symm
    obtain ⟨rfl, hus, hpw⟩ := ih hp' h
    refine ⟨by simp, fun x hx => ?_, hpw⟩
    rcases List.mem_cons.mp hx with rfl | hx
    · exact hu
    · exact hus x hx

/-- **Adding rows**: they stand after the rows that were there. -/
theorem insert_eq_ok {new : List Row} (hs : s.Conforms) (h : s.insert {} new = .ok s') :
    s'.rows = s.rows ++ new.map Row.settled ∧ s'.Conforms := by
  obtain ⟨rows, hrows, h⟩ := bind_eq_ok_iff.mp h
  obtain ⟨rfl, hu, hp⟩ := foldlM_append hs.apart hrows
  split at h
  · cases h
  rename_i hd
  cases h
  refine ⟨rfl, ⟨fun r hr => ?_, hp, fun r hr => ?_⟩⟩
  · rcases List.mem_append.mp hr with hr | hr
    · exact hs.conditions r hr
    · obtain ⟨x, hx, rfl⟩ := List.mem_map.mp hr
      rw [Row.unmet_settled, hu x hx]
  · rcases List.mem_append.mp hr with hr | hr
    · exact (hs.linked r hr).mono fun q hq => List.mem_append_left _ hq
    · obtain ⟨x, hx, rfl⟩ := List.mem_map.mp hr
      rw [Row.linked_settled_iff, ← Row.dangles_eq_false_iff]
      simp only [Bool.true_and, Bool.not_eq_true, List.any_eq_false] at hd
      exact hd x hx

theorem foldlM_append_ok {new rows : List Row} (hu : ∀ r ∈ new, r.unmet = none)
    (hp : (rows ++ new.map Row.settled).Pairwise Row.Apart) :
    new.foldlM append rows = .ok (rows ++ new.map Row.settled) := by
  induction new generalizing rows with
  | nil => simp [pure, Except.pure]
  | cons r new ih =>
    obtain ⟨hur, hus⟩ := List.forall_mem_cons.mp hu
    have hapart : ∀ q ∈ rows, r.Apart q := fun q hq =>
      (Row.apart_settled_iff.mp ((List.pairwise_append.mp hp).2.2 q hq _
        List.mem_cons_self).symm)
    have hrows : rows ++ (r :: new).map Row.settled =
        rows ++ [r.settled] ++ new.map Row.settled := by simp
    rw [hrows] at hp ⊢
    rw [List.foldlM_cons]
    exact bind_eq_ok_iff.mpr ⟨_, append_eq_ok_iff.mpr ⟨⟨hur, hapart⟩, rfl⟩, ih hus hp⟩

theorem insert_ok {new : List Row} (hu : ∀ r ∈ new, r.unmet = none)
    (hp : (s.rows ++ new.map Row.settled).Pairwise Row.Apart)
    (hl : ∀ r ∈ new, r.Linked (s.rows ++ new.map Row.settled)) :
    s.insert {} new = .ok ⟨s.rows ++ new.map Row.settled⟩ := by
  refine bind_eq_ok_iff.mpr ⟨_, foldlM_append_ok hu hp, ?_⟩
  have hlinked : (new.any fun r => r.dangles (s.rows ++ new.map Row.settled)) = false :=
    List.any_eq_false.mpr fun r hr => by
      rw [Row.dangles_eq_false_iff.mpr (hl r hr)]
      exact Bool.false_ne_true
  rw [hlinked, Bool.and_false, if_neg Bool.false_ne_true]

/-! ### Replacing a row -/

/-- What becomes of a row when another is written: that one takes its place if it is of its table
and its identifier. -/
def Row.revisedBy (new q : Row) : Row := if q.table = new.table ∧ q.id = new.id then new else q

theorem Row.table_revisedBy (new q : Row) : (new.revisedBy q).table = q.table := by
  unfold revisedBy; split <;> simp_all

theorem Row.id_revisedBy (new q : Row) : (new.revisedBy q).id = q.id := by
  unfold revisedBy; split <;> simp_all

theorem Row.revisedBy_eq {new q : Row} {key : Uuid} (hkey : new.id = some key) :
    new.revisedBy q = if q.isAt new.table key = true then new else q := by
  simp only [revisedBy, Row.isAt_iff, hkey]

/-- A row in the place of one of its table and identifier leaves a store conforming if it meets the
conditions, stands apart from the others and is linked. -/
theorem Conforms.map_revisedBy {new : Row} {key : Uuid} (hs : s.Conforms)
    (hkey : new.id = some key) (hold : ∃ old ∈ s.rows, old.isAt new.table key = true)
    (hu : new.unmet = none)
    (ha : ∀ q ∈ s.rows, q.isAt new.table key = false → new.Apart q)
    (hl : new.Linked (s.rows.map new.revisedBy)) : Conforms ⟨s.rows.map new.revisedBy⟩ where
  conditions r hr := by
    obtain ⟨q, hq, rfl⟩ := List.mem_map.mp hr
    unfold Row.revisedBy
    split
    · exact hu
    · exact hs.conditions q hq
  apart := by
    obtain ⟨old, hold, hat⟩ := hold
    obtain ⟨before, after, hrows, hothers⟩ := hs.exists_split hold hat
    have hself : ∀ q ∈ before ++ after, new.revisedBy q = q := fun q hq => by
      rw [Row.revisedBy_eq hkey, hothers q hq]; rfl
    have hmap : s.rows.map new.revisedBy = before ++ new :: after := by
      rw [hrows, List.map_append, List.map_cons, Row.revisedBy_eq hkey, if_pos hat]
      congr 1
      · exact (List.map_congr_left (g := id) fun q hq =>
          hself q (List.mem_append_left _ hq)).trans (List.map_id _)
      · congr 1
        exact (List.map_congr_left (g := id) fun q hq =>
          hself q (List.mem_append_right _ hq)).trans (List.map_id _)
    have hp : (old :: (before ++ after)).Pairwise Row.Apart :=
      (List.perm_middle.pairwise_iff Row.Apart.symm).mp (hrows ▸ hs.apart)
    rw [hmap, List.perm_middle.pairwise_iff Row.Apart.symm]
    refine List.pairwise_cons.mpr ⟨fun q hq => ha q ?_ (hothers q hq), hp.of_cons⟩
    rw [hrows]
    simp only [List.mem_append, List.mem_cons] at hq ⊢
    tauto
  linked r hr := by
    obtain ⟨q, hq, rfl⟩ := List.mem_map.mp hr
    unfold Row.revisedBy
    split
    · exact hl
    · refine (hs.linked q hq).of_covers fun x hx => ⟨_, List.mem_map.mpr ⟨x, hx, rfl⟩, ?_, ?_⟩
      · exact Row.table_revisedBy new x
      · exact Row.id_revisedBy new x

section Replace

variable {key : Uuid} {version : Int32} {new old : Row} (hs : s.Conforms)
  (hkey : new.id = some key) (hold : old ∈ s.rows) (hat : old.isAt new.table key = true)
  (hv : old.version = some version)
include hs hold hat hv

theorem isOld_eq {q : Row} (hq : q ∈ s.rows) :
    (q.isAt new.table key && decide (q.version = some version)) = q.isAt new.table key := by
  cases hqt : q.isAt new.table key with
  | false => rfl
  | true => rw [hs.eq_of_isAt hq hold hqt hat, hv]; simp

include hkey in
theorem map_isOld_eq : s.rows.map (fun q =>
    if (q.isAt new.table key && decide (q.version = some version)) = true then new.settled else q) =
      s.rows.map new.settled.revisedBy := by
  refine List.map_congr_left fun q hq => ?_
  rw [isOld_eq hs hold hat hv hq, Row.revisedBy_eq (by rw [Row.id_settled, hkey]),
    Row.table_settled]

include hkey in
/-- A row takes the place of one that is stored in the version if it meets the conditions, stands
apart from the others and is linked. -/
theorem replace_ok (hu : new.unmet = none)
    (ha : ∀ q ∈ s.rows, q.isAt new.table key = false → new.Apart q) (hl : new.Linked s.rows) :
    ∃ s', s.replace {} key version new = .ok (some s') := by
  have hany : (s.rows.any fun q =>
      q.isAt new.table key && decide (q.version = some version) && !false) = true :=
    List.any_eq_true.mpr ⟨old, hold, by rw [hat, hv]; simp⟩
  have hcheck : new.check (s.rows.filter fun q =>
      !(q.isAt new.table key && decide (q.version = some version))) = .ok () := by
    refine Row.check_eq_ok_iff.mpr ⟨hu, fun q hq => ?_⟩
    obtain ⟨hq, hold'⟩ := List.mem_filter.mp hq
    rw [isOld_eq hs hold hat hv hq] at hold'
    exact ha q hq (by simpa using hold')
  have hdangles : new.dangles (s.rows.map new.settled.revisedBy) = false := by
    refine Row.dangles_eq_false_iff.mpr (hl.of_covers fun q hq => ?_)
    exact ⟨_, List.mem_map_of_mem hq, Row.table_revisedBy _ q, Row.id_revisedBy _ q⟩
  refine ⟨⟨s.rows.map new.settled.revisedBy⟩, ?_⟩
  simp only [replace]
  rw [if_pos hany, hcheck, map_isOld_eq hs hkey hold hat hv, hdangles]
  rfl

end Replace

/-- **Replacing a row**: the row of its table and its identifier that was stored in the version
gives way to it. -/
theorem replace_eq_some {key : Uuid} {version : Int32} {new : Row} (hs : s.Conforms)
    (hkey : new.id = some key) (h : s.replace {} key version new = .ok (some s')) :
    (∃ old ∈ s.rows, old.isAt new.table key = true ∧ old.version = some version) ∧
      s'.rows = s.rows.map new.settled.revisedBy ∧ s'.Conforms := by
  simp only [replace] at h
  split at h
  swap
  · cases h
  rename_i hany
  simp only [Bool.and_eq_true, Bool.not_false, List.any_eq_true, decide_eq_true_eq,
    and_true] at hany
  obtain ⟨old, hold, hat, hv⟩ := hany
  refine ⟨⟨old, hold, hat, hv⟩, ?_⟩
  obtain ⟨_, hcheck, h⟩ := bind_eq_ok_iff.mp h
  obtain ⟨hu, ha⟩ := Row.check_eq_ok_iff.mp hcheck
  rw [map_isOld_eq hs hkey hold hat hv] at h
  split at h
  · cases h
  rename_i hd
  cases h
  have hskey : new.settled.id = some key := (Row.id_settled new).trans hkey
  refine ⟨rfl, hs.map_revisedBy hskey ⟨old, hold, by rwa [Row.table_settled]⟩
    (by rw [Row.unmet_settled, hu]) (fun q hq hqt => ?_) ?_⟩
  · rw [Row.table_settled] at hqt
    rw [Row.apart_settled_iff]
    exact ha q (List.mem_filter.mpr ⟨hq, by rw [hqt]; rfl⟩)
  · rw [Row.linked_settled_iff, ← Row.dangles_eq_false_iff]
    simpa using hd

/-! ### Removing a row -/

/-- The tables whose rows only join two others. -/
def Table.isJunction : Table → Bool
  | .sectionSpaceTimes | .sectionTeachers => true
  | _ => false

theorem Row.refersTo_eq_true_iff {r : Row} {t : Table} {key : Uuid} {sort : OnDelete} :
    r.refersTo t key sort = true ↔ ∃ ref ∈ Schema.migrated.references r.table,
      ref.target = t ∧ ref.onDelete = sort ∧ r.cell ref.column = .uuid key := by
  simp [Row.refersTo, and_assoc]

theorem isJunction_target {t : Table} {ref : Reference}
    (h : ref ∈ Schema.migrated.references t) : ref.target.isJunction = false := by
  have key : ∀ ref ∈ Schema.migrated.references t, ref.target.isJunction = false := by
    cases t <;> decide
  exact key ref h

theorem cascade_target {t : Table} {ref : Reference} (h : ref ∈ Schema.migrated.references t)
    (hc : ref.onDelete = .cascade) :
    t.isJunction = true ∧ ref.target = .sections ∧ ref.column = .sectionId := by
  have key : ∀ ref ∈ Schema.migrated.references t, ref.onDelete = .cascade →
      t.isJunction = true ∧ ref.target = .sections ∧ ref.column = .sectionId := by
    cases t <;> decide
  exact key ref h hc

theorem Conforms.filter_junctions (hs : s.Conforms) {p : Row → Bool}
    (hp : ∀ q ∈ s.rows, p q = false → q.table.isJunction = true) :
    Conforms ⟨s.rows.filter p⟩ := by
  refine hs.filter fun r _ _ q hq hpq ref href ht _ _ => ?_
  have := isJunction_target href
  rw [ht, hp q hq hpq] at this
  cases this

/-- **Removing a row**: it is gone, and so are the rows that go with it; no other row refers to
it. -/
theorem remove_eq_some {t : Table} {key : Uuid} (hs : s.Conforms)
    (h : s.remove {} t key = .ok (some s')) :
    (∃ old ∈ s.rows, old.isAt t key = true) ∧
      (∀ r ∈ s.rows, r.isAt t key = false → r.refersTo t key .restrict = false) ∧
      s'.rows = s.rows.filter (fun q => !q.isAt t key && !q.refersTo t key .cascade) ∧
      s'.Conforms := by
  simp only [remove, Bool.not_false, Bool.and_true, ↓reduceIte] at h
  split at h
  swap
  · cases h
  rename_i hany
  split at h
  · cases h
  rename_i hr
  split at h
  · cases h
  rename_i hc
  cases h
  simp only [List.any_eq_true, List.mem_filter, not_exists, not_and, Bool.not_eq_true,
    Bool.not_eq_eq_eq_not, Bool.not_true] at hany hr hc
  have hrestrict : ∀ r ∈ s.rows, r.isAt t key = false → r.refersTo t key .restrict = false :=
    fun r hr' hrt => hr r ⟨hr', hrt⟩
  refine ⟨hany, hrestrict,
    List.filter_filter.trans (List.filter_congr fun q _ => Bool.and_comm _ _), ?_⟩
  rw [List.filter_filter]
  refine hs.filter fun r hr' hpr q hq hpq ref href ht hne hid => ?_
  simp only [Bool.and_eq_true, Bool.not_eq_true', Bool.and_eq_false_iff, Bool.not_eq_false']
    at hpr hpq
  rcases hpq with hcas | hat
  · -- what goes with the row only joins two others
    obtain ⟨ref', href', -, hdel, -⟩ := Row.refersTo_eq_true_iff.mp hcas
    have := isJunction_target href
    rw [ht, (cascade_target href' hdel).1] at this
    cases this
  · obtain ⟨hqt, hqid⟩ := Row.isAt_iff.mp hat
    have hcell : r.cell ref.column = .uuid key := by rw [← hid, Row.cell_id, hqid]; rfl
    have hrefers : r.refersTo t key ref.onDelete = true :=
      Row.refersTo_eq_true_iff.mpr ⟨ref, href, ht.trans hqt, rfl, hcell⟩
    cases hdel : ref.onDelete with
    | restrict => rw [hdel, hrestrict r hr' hpr.2] at hrefers; cases hrefers
    | cascade => rw [hdel, hpr.1] at hrefers; cases hrefers

section Remove

variable {t : Table} {key : Uuid} {old : Row} (hold : old ∈ s.rows) (hat : old.isAt t key = true)
include hold hat

theorem any_isAt_eq_true : (s.rows.any fun q => q.isAt t key && !false) = true :=
  List.any_eq_true.mpr ⟨old, hold, by rw [hat]; rfl⟩

/-- A row that nothing refers to is removed, and nothing goes with it. -/
theorem remove_ok (h : ∀ r ∈ s.rows, r.isAt t key = false → ∀ sort, r.refersTo t key sort = false) :
    s.remove {} t key = .ok (some ⟨s.rows.filter fun q => !q.isAt t key⟩) := by
  have hnone : ∀ sort, ((s.rows.filter fun q => !q.isAt t key).any
      (·.refersTo t key sort)) = false := by
    intro sort
    refine List.any_eq_false.mpr fun r hr => ?_
    obtain ⟨hr, hrt⟩ := List.mem_filter.mp hr
    rw [h r hr (by simpa using hrt)]
    exact Bool.false_ne_true
  have hkept : (s.rows.filter fun q => !q.isAt t key).filter (fun q =>
      !(q.refersTo t key .cascade && !false)) = s.rows.filter fun q => !q.isAt t key := by
    refine List.filter_eq_self.mpr fun r hr => ?_
    rw [Bool.not_false, Bool.and_true]
    exact congrArg not (Bool.eq_false_iff.mpr (List.any_eq_false.mp (hnone .cascade) r hr))
  simp only [remove]
  rw [if_pos (any_isAt_eq_true hold hat), hkept, hnone, hnone]
  rfl

theorem remove_restricted {r : Row} (hr : r ∈ s.rows) (hrt : r.isAt t key = false)
    (h : r.refersTo t key .restrict = true) : s.remove {} t key = .error .restricted := by
  have hany : ((s.rows.filter fun q => !q.isAt t key).any (·.refersTo t key .restrict)) = true :=
    List.any_eq_true.mpr ⟨r, List.mem_filter.mpr ⟨hr, by rw [hrt]; rfl⟩, h⟩
  simp only [remove]
  rw [if_pos (any_isAt_eq_true hold hat), hany]
  rfl

end Remove

end Enrollment.Store
