import Enrollment.Proofs.Store.Entities

/-! # Finding what is stored

To find an entity is to read the rows of its place, which are one at most in a conforming store.
What stands in other places does not matter, save for the rows that join a section to others.

* `find_eq`: what is found is read off the rows of the place.
* `find_congr`: stores that agree on a place, and on what a section is joined to, find the same.
* `find_eq_some_iff`: what is found is what is held. -/

namespace Enrollment

theorem mapM_map_result {ε α β γ : Type} (f : α → Except ε β) (g : β → γ) (as : List α) :
    (as.mapM fun a => (f a).map g) = (as.mapM f).map (List.map g) := by
  induction as with
  | nil => rfl
  | cons a as ih =>
    rw [List.mapM_cons, List.mapM_cons, ih]
    cases f a with
    | error e => rfl
    | ok b => cases as.mapM f <;> rfl

namespace Store

variable {s s' : Store} {kind : Kind} {key : Uuid} {e : Entity}

/-! ### Rows of a place -/

theorem filter_typed {ρ : Type} [RowType ρ] {p : ρ → Bool} {p' : Row → Bool}
    (hp : ∀ a, p' (RowType.toRow a) = p a) (s : Store) :
    (s.typed ρ).filter p = (s.rows.filter p').filterMap RowType.ofRow? := by
  rw [typed, List.filter_filterMap, List.filterMap_filter]
  refine List.filterMap_congr fun q _ => ?_
  cases hq : RowType.ofRow? (ρ := ρ) q with
  | none => simp
  | some a =>
    obtain rfl := RowType.ofRow?_eq_some_iff.mp hq
    by_cases ha : p a = true <;> simp [hp, ha]

theorem Conforms.filter_isAt {t : Table} {q : Row} (hs : s.Conforms) (hq : q ∈ s.rows)
    (hat : q.isAt t key = true) : s.rows.filter (Row.isAt t key) = [q] := by
  obtain ⟨before, after, hrows, hothers⟩ := hs.exists_split hq hat
  have hnone : ∀ part : List Row, (∀ x ∈ part, x ∈ before ++ after) →
      part.filter (Row.isAt t key) = [] := by
    refine fun part hpart => List.filter_eq_nil_iff.mpr fun x hx => ?_
    rw [hothers x (hpart x hx)]
    exact Bool.false_ne_true
  rw [hrows, List.filter_append, List.filter_cons, if_pos hat,
    hnone before fun x hx => List.mem_append_left _ hx,
    hnone after fun x hx => List.mem_append_right _ hx]
  rfl

/-! ### Reading a place -/

/-- The first entity that rows stand for, given what they are joined to, if all of them can be
read. -/
def firstOf (rows : List Row) (spaceTimeIds teacherIds : List Uuid) :
    Except RowFault (Option Entity) :=
  ((rows.filterMap fun q => Row.toEntity? q spaceTimeIds teacherIds).mapM fun x => x).map List.head?

theorem firstOf_filter_isAt {ρ α : Type} [RowType ρ] {t : Table} {id : ρ → Uuid} {a b : List Uuid}
    (read : ρ → Except RowFault α) (wrap : α → Entity)
    (ht : ∀ r : ρ, (RowType.toRow r).table = t := by intro r; rfl)
    (hid : ∀ r : ρ, (RowType.toRow r).id = some (id r) := by intro r; rfl)
    (hread : ∀ r : ρ, (RowType.toRow r).toEntity? a b = some ((read r).map wrap) := by
      intro r; rfl)
    (hrow : ∀ q : Row, q.table = t → ∃ r : ρ, q = RowType.toRow r := by
      intro q hq; cases q <;> first | exact ⟨_, rfl⟩ | cases hq) :
    (((s.typed ρ).filter fun r => decide (id r = key)).mapM read).map
        (fun es => es.head?.map wrap) =
      firstOf (s.rows.filter (Row.isAt t key)) a b := by
  have hat : ∀ r : ρ, (RowType.toRow r).isAt t key = decide (id r = key) := by
    intro r
    simp [Row.isAt, ht, hid]
  have hentities : ((s.rows.filter (Row.isAt t key)).filterMap fun q => Row.toEntity? q a b) =
      ((s.typed ρ).filter fun r => decide (id r = key)).map fun r => (read r).map wrap := by
    rw [filter_typed hat, List.map_filterMap]
    refine List.filterMap_congr fun q hq => ?_
    obtain ⟨r, rfl⟩ := hrow q (Row.isAt_iff.mp (List.mem_filter.mp hq).2).1
    rw [hread, RowType.ofRow?_eq_some_iff.mpr rfl]
    rfl
  rw [firstOf, hentities, List.mapM_map, show ((fun x => x) ∘ fun r => (read r).map wrap) =
    fun r : ρ => (read r).map wrap from rfl, mapM_map_result]
  cases ((s.typed ρ).filter fun r => decide (id r = key)).mapM read with
  | error e => rfl
  | ok as => simp [Except.map]

/-- **To find an entity** is to read the rows of its place. -/
theorem find_eq (s : Store) (kind : Kind) (key : Uuid) : s.find kind key =
    firstOf (s.rows.filter (Row.isAt (tableOf kind) key)) (s.spaceTimeIds key)
      (s.teacherIds key) := by
  have hpure : ∀ {ρ α : Type} (f : ρ → α) (rows : List ρ),
      rows.mapM (fun r => (Except.ok (f r) : Except RowFault α)) = .ok (rows.map f) :=
    fun f rows => List.mapM_pure
  cases kind
  case prerequisite =>
    refine Eq.trans ?_ (firstOf_filter_isAt (fun r => .ok (PrerequisiteRow.toPrerequisite r))
      Entity.prerequisite)
    rw [hpure]
    rfl
  case student =>
    refine Eq.trans ?_ (firstOf_filter_isAt (fun r => .ok (StudentRow.toStudent r)) Entity.student)
    rw [hpure]
    rfl
  case «section» =>
    refine Eq.trans ?_ (firstOf_filter_isAt (fun r => .ok (SectionRow.toSection r
      (s.spaceTimeIds key) (s.teacherIds key))) Entity.section)
    have hjoined : (s.sections.filter (·.audit.id = key)).map s.joined =
        (s.sections.filter (·.audit.id = key)).map
          (·.toSection (s.spaceTimeIds key) (s.teacherIds key)) := by
      refine List.map_congr_left fun r hr => ?_
      rw [joined, of_decide_eq_true (List.mem_filter.mp hr).2]
    rw [hpure]
    simp only [find, findSection, head?_selectSections, ← List.head?_map, hjoined]
    rfl
  all_goals exact firstOf_filter_isAt _ _

/-! ### What is found -/

theorem toEntity?_congr {q : Row} (h : q.table ≠ .sections) (a b a' b' : List Uuid) :
    q.toEntity? a b = q.toEntity? a' b' := by
  cases q
  case «section» => exact absurd rfl h
  all_goals rfl

/-- Stores that agree on a place find the same there, and for a section if it is joined to the
same. -/
theorem find_congr (hrows : s'.rows.filter (Row.isAt (tableOf kind) key) =
      s.rows.filter (Row.isAt (tableOf kind) key))
    (hjoined : kind = .section → s'.spaceTimeIds key = s.spaceTimeIds key ∧
      s'.teacherIds key = s.teacherIds key) : s'.find kind key = s.find kind key := by
  rw [find_eq, find_eq, hrows]
  by_cases hkind : kind = .section
  · obtain ⟨hspaceTimes, hteachers⟩ := hjoined hkind
    rw [hspaceTimes, hteachers]
  · have htable : tableOf kind ≠ .sections := fun ht => hkind (tableOf_injective ht)
    unfold firstOf
    congr 2
    refine List.filterMap_congr fun q hq => toEntity?_congr ?_ ..
    rw [(Row.isAt_iff.mp (List.mem_filter.mp hq).2).1]
    exact htable

theorem find_eq_none (h : ∀ q ∈ s.rows, q.isAt (tableOf kind) key = false) :
    s.find kind key = .ok none := by
  have hnone : s.rows.filter (Row.isAt (tableOf kind) key) = [] := by
    refine List.filter_eq_nil_iff.mpr fun q hq => ?_
    rw [h q hq]
    exact Bool.false_ne_true
  rw [find_eq, hnone]
  rfl

/-- **What is found is what is held.** -/
theorem find_eq_some_iff (hs : s.Conforms) :
    s.find kind key = .ok (some e) ↔ s.Holds kind key e := by
  refine ⟨exists_row_of_find, fun ⟨q, hq, hat, hentity⟩ => ?_⟩
  rw [find_eq, hs.filter_isAt hq hat, firstOf, List.filterMap_cons, hentity]
  rfl

theorem findSection_eq {r : SectionRow} (hs : s.Conforms) (hr : r ∈ s.sections) :
    s.findSection r.audit.id = some (s.joined r) := by
  have hfind : s.find .section r.audit.id = .ok (some (.section (s.joined r))) :=
    (find_eq_some_iff hs).mpr ⟨.section r, mem_typed_iff.mp hr, Row.isAt_iff.mpr ⟨rfl, rfl⟩, rfl⟩
  obtain ⟨sec, hsec, heq⟩ := Option.map_eq_some_iff.mp (Except.ok.inj hfind)
  rw [hsec, Entity.section.inj heq]

end Store

/-! ### What is written is read back -/

/-- The entity as a store keeps it, with no sign on a zero. -/
def Entity.settled : Entity → Entity
  | .prerequisite e => .prerequisite { e with minGrade := e.minGrade.unsignedZero }
  | .course e => .course { e with grade := e.grade.map Binary32.unsignedZero }
  | e => e

namespace Store

theorem toEntity?_settled (r : Row) (a b : List Uuid) :
    r.settled.toEntity? a b = (r.toEntity? a b).map (Except.map Entity.settled) := by
  cases r <;> simp only [Row.settled, Row.toEntity?, Option.map_some, Option.map_none]
  case prerequisite => rfl
  case «section» => rfl
  case student => rfl
  case course r =>
    simp only [CourseRow.toCourse]
    cases (ofName .status r.status : Except RowFault CourseStatus) <;> rfl
  case subject r => cases r.toSubject <;> rfl
  case trimester r => cases r.toTrimester <;> rfl
  case spaceTime r => cases r.toSpaceTime <;> rfl
  case notification r => cases r.toNotification <;> rfl
  case faculty r => cases r.toFaculty <;> rfl

/-- **The row of an entity is read as that entity** once it is settled, given what a section
lists. -/
theorem toEntity?_ofEntity {row : Row} {a b : List Uuid} (h : Row.ofEntity e = .ok row)
    (hlists : ∀ sec, e = .section sec → a = sec.spaceTimeIds ∧ b = sec.teacherIds) :
    row.settled.toEntity? a b = some (.ok e.settled) := by
  rw [toEntity?_settled, toEntity?_of_ofEntity h hlists]
  rfl

end Store

end Enrollment
