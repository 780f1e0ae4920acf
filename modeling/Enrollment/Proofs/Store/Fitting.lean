import Enrollment.Proofs.Store.Statements

/-! # Rows that fit

A row fits a store under an identifier if the schema lets it stand there: its values meet their
conditions, no row under another identifier agrees with it on a unique index, and what it refers to
is stored. A statement that adds such a row, or puts it in the place of the one under the
identifier, is done.

* `insert_of_fits`: a row is added where none is under its identifier.
* `replace_of_fits`: a row takes the place of the one under its identifier.
* `insert_map_ok`: rows without identifiers are added, one for each of a list of identifiers. -/

namespace Enrollment.Store

/-- A row of a table is stored under an identifier. -/
def Has (s : Store) (t : Table) (key : Uuid) : Prop := ∃ q ∈ s.rows, q.isAt t key = true

instance (s : Store) (t : Table) (key : Uuid) : Decidable (s.Has t key) :=
  inferInstanceAs (Decidable (∃ q ∈ s.rows, q.isAt t key = true))

/-- The conditions of a table, each with its column. -/
def conditions (t : Table) : List (Column × Condition) :=
  (Schema.migrated.columns t).filterMap fun c => c.condition.map (c.column, ·)

/-- The lists of columns of the unique indexes of a table, its key apart. -/
def naturalKeys (t : Table) : List (List Column) :=
  ((Schema.migrated.indexesOf t).filter (·.unique)).map (·.columns)

theorem mem_keys_iff {t : Table} {columns : List Column} :
    columns ∈ keys t ↔ columns ∈ naturalKeys t ∨ columns = [.id] := by
  simp [keys, naturalKeys]

theorem mem_conditions_sections_iff {c : Column × Condition} : c ∈ conditions .sections ↔
    c = (.maxCapacity, .above 0) ∨ c = (.currentCapacity, .atLeast 0) := by
  rw [show conditions .sections =
    [(.maxCapacity, .above 0), (.currentCapacity, .atLeast 0)] from rfl]
  simp

theorem mem_references_sections_iff {ref : Reference} :
    ref ∈ Schema.migrated.references .sections ↔
      ref = ⟨.subjectId, .subjects, .restrict⟩ ∨ ref = ⟨.trimesterId, .trimesters, .restrict⟩ := by
  rw [show Schema.migrated.references .sections =
    [⟨.subjectId, .subjects, .restrict⟩, ⟨.trimesterId, .trimesters, .restrict⟩] from rfl]
  simp

variable {s s' : Store} {key : Uuid}

namespace Row

variable {r q : Row} {rows : List Row}

theorem unmet_eq_none_iff : r.unmet = none ↔
    ∀ c ∈ conditions r.table, c.2.admits (r.cell c.1) = true := by
  simp only [unmet, Option.map_eq_none_iff, List.find?_eq_none, conditions, List.mem_filterMap,
    Option.map_eq_some_iff, Option.any_eq_true, Bool.not_eq_true']
  constructor
  · rintro h _ ⟨c, hc, k, hk, rfl⟩
    by_contra hadmits
    exact h c hc ⟨k, hk, by simpa using hadmits⟩
  · rintro h c hc ⟨k, hk, hadmits⟩
    rw [h _ ⟨c, hc, k, hk, rfl⟩] at hadmits
    cases hadmits

theorem linked_iff : r.Linked s.rows ↔ ∀ ref ∈ Schema.migrated.references r.table,
    ∃ id : Option Uuid, r.cell ref.column = .ofOption .uuid id ∧ ∀ k ∈ id, s.Has ref.target k := by
  refine forall₂_congr fun ref _ => ⟨fun h => ?_, ?_⟩
  · by_cases hnull : r.cell ref.column = .null
    · exact ⟨none, hnull, nofun⟩
    · obtain ⟨q, hq, ht, hid⟩ := h hnull
      exact ⟨q.id, hid.symm.trans (cell_id q), fun k hk => ⟨q, hq, isAt_iff.mpr ⟨ht, hk⟩⟩⟩
  · rintro ⟨id, hcell, h⟩ hne
    cases id with
    | none => exact absurd hcell hne
    | some k =>
      obtain ⟨q, hq, hat⟩ := h k rfl
      obtain ⟨ht, hid⟩ := isAt_iff.mp hat
      exact ⟨q, hq, ht, by rw [cell_id, hid, hcell]⟩

theorem apart_of_natural (hid : r.id = some key) (hat : q.isAt r.table key = false)
    (h : ∀ columns ∈ naturalKeys r.table, r.agrees q columns = false) : r.Apart q := by
  intro columns hcolumns
  rcases mem_keys_iff.mp hcolumns with hcolumns | rfl
  · exact h columns hcolumns
  · rw [Bool.eq_false_iff]
    intro hagrees
    obtain ⟨ht, hcells⟩ := agrees_iff.mp hagrees
    have hcell := (hcells .id List.mem_cons_self).2
    rw [cell_id, cell_id, hid] at hcell
    refine Bool.eq_false_iff.mp hat (isAt_iff.mpr ⟨ht.symm, ?_⟩)
    cases hq : q.id with
    | none => rw [hq] at hcell; cases hcell
    | some k => rw [hq] at hcell; exact congrArg some (Cell.uuid.inj hcell).symm

theorem apart_of_id_eq_none (hid : r.id = none)
    (h : ∀ columns ∈ naturalKeys r.table, r.agrees q columns = false) : r.Apart q := by
  intro columns hcolumns
  rcases mem_keys_iff.mp hcolumns with hcolumns | rfl
  · exact h columns hcolumns
  · rw [Bool.eq_false_iff]
    intro hagrees
    exact ((agrees_iff.mp hagrees).2 .id List.mem_cons_self).1 (by rw [cell_id, hid]; rfl)

/-! ### Natural keys -/

theorem agrees_subject_iff {r x : SubjectRow} :
    (subject r).agrees (subject x) [.codeName] = true ↔ r.codeName = x.codeName := by
  simp [agrees, table, cell, cells, ownCells]

theorem agrees_trimester_iff {r x : TrimesterRow} :
    (trimester r).agrees (trimester x) [.code] = true ↔ r.code = x.code := by
  simp [agrees, table, cell, cells, ownCells, Int32.toInt_inj]

theorem agrees_student_iff {r x : StudentRow} :
    (student r).agrees (student x) [.universityId] = true ↔ r.universityId = x.universityId := by
  simp [agrees, table, cell, cells, ownCells, Int64.toInt_inj]

theorem agrees_spaceTime_iff {r x : SpaceTimeRow} :
    (spaceTime r).agrees (spaceTime x) [.roomNumber, .dayOfWeek, .timeSlot] = true ↔
      r.roomNumber = x.roomNumber ∧ r.dayOfWeek = x.dayOfWeek ∧ r.timeSlot = x.timeSlot := by
  simp [agrees, table, cell, cells, ownCells, Int16.toInt_inj]

theorem agrees_prerequisite_iff {r x : PrerequisiteRow} :
    (prerequisite r).agrees (prerequisite x) [.subjectId, .requiredSubjectId] = true ↔
      r.subjectId = x.subjectId ∧ r.requiredSubjectId = x.requiredSubjectId := by
  simp [agrees, table, cell, cells, ownCells]

theorem agrees_course_iff {r x : CourseRow} :
    (course r).agrees (course x) [.studentId, .subjectId, .trimesterId] = true ↔
      r.studentId = x.studentId ∧ r.subjectId = x.subjectId ∧ r.trimesterId = x.trimesterId := by
  simp [agrees, table, cell, cells, ownCells]

theorem agrees_sectionSpaceTime_iff {r x : SectionSpaceTimeRow} :
    (sectionSpaceTime r).agrees (sectionSpaceTime x) [.trimesterId, .spaceTimeId] = true ↔
      r.trimesterId = x.trimesterId ∧ r.spaceTimeId = x.spaceTimeId := by
  simp [agrees, table, cell, cells, ownCells]

theorem agrees_sectionTeacher_iff {r x : SectionTeacherRow} :
    (sectionTeacher r).agrees (sectionTeacher x) [.sectionId, .facultyId] = true ↔
      r.sectionId = x.sectionId ∧ r.facultyId = x.facultyId := by
  simp [agrees, table, cell, cells, ownCells]

/-! ### Rows under an identifier -/

/-- A row may stand in a store under an identifier. -/
structure Fits (r : Row) (key : Uuid) (s : Store) : Prop where
  id_eq : r.id = some key
  conditions : ∀ c ∈ Store.conditions r.table, c.2.admits (r.cell c.1) = true
  natural : ∀ columns ∈ naturalKeys r.table, ∀ q ∈ s.rows, r.agrees q columns = true →
    q.isAt r.table key = true
  references : ∀ ref ∈ Schema.migrated.references r.table,
    ∃ id : Option Uuid, r.cell ref.column = .ofOption .uuid id ∧ ∀ k ∈ id, s.Has ref.target k

theorem Fits.apart (h : r.Fits key s) (hq : q ∈ s.rows) (hat : q.isAt r.table key = false) :
    r.Apart q := by
  refine apart_of_natural h.id_eq hat fun columns hcolumns => ?_
  refine Bool.eq_false_iff.mpr fun hagrees => ?_
  rw [h.natural columns hcolumns q hq hagrees] at hat
  cases hat

end Row

theorem Conforms.fits {q : Row} (hs : s.Conforms) (hq : q ∈ s.rows) (hid : q.id = some key) :
    q.Fits key s where
  id_eq := hid
  conditions := Row.unmet_eq_none_iff.mp (hs.conditions q hq)
  natural columns hcolumns x hx hagrees := by
    rw [← hs.eq_of_agrees hq hx (mem_keys_iff.mpr (.inl hcolumns)) hagrees]
    exact Row.isAt_iff.mpr ⟨rfl, hid⟩
  references := Row.linked_iff.mp (hs.linked q hq)

theorem insert_of_fits {r : Row} (hs : s.Conforms) (h : r.Fits key s)
    (hnew : ∀ q ∈ s.rows, q.isAt r.table key = false) :
    s.insert {} [r] = .ok ⟨s.rows ++ [r.settled]⟩ := by
  refine insert_ok ?_ ?_ ?_
  · exact fun x hx => List.mem_singleton.mp hx ▸ Row.unmet_eq_none_iff.mpr h.conditions
  · refine List.pairwise_append.mpr ⟨hs.apart, List.pairwise_singleton _ _, fun q hq x hx => ?_⟩
    obtain rfl := List.mem_singleton.mp hx
    exact (Row.apart_settled_iff.mpr (h.apart hq (hnew q hq))).symm
  · intro x hx
    obtain rfl := List.mem_singleton.mp hx
    exact (Row.linked_iff.mpr h.references).mono fun q hq => List.mem_append_left _ hq

theorem replace_of_fits {r old : Row} {version : Int32} (hs : s.Conforms) (h : r.Fits key s)
    (hold : old ∈ s.rows) (hat : old.isAt r.table key = true) (hv : old.version = some version) :
    ∃ s', s.replace {} key version r = .ok (some s') :=
  replace_ok hs h.id_eq hold hat hv (Row.unmet_eq_none_iff.mpr h.conditions)
    (fun _ hq hqat => h.apart hq hqat) (Row.linked_iff.mpr h.references)

/-! ### Rows without identifiers -/

theorem insert_map_ok {ids : List Uuid} {f : Uuid → Row} (hs : s.Conforms) (hids : ids.Nodup)
    (hsettled : ∀ id, (f id).settled = f id) (hu : ∀ id, (f id).unmet = none)
    (hf : ∀ id id', id ≠ id' → (f id).Apart (f id'))
    (ha : ∀ id ∈ ids, ∀ q ∈ s.rows, (f id).Apart q) (hl : ∀ id ∈ ids, (f id).Linked s.rows) :
    s.insert {} (ids.map f) = .ok ⟨s.rows ++ ids.map f⟩ := by
  have hmap : (ids.map f).map Row.settled = ids.map f := by
    rw [List.map_map]
    exact List.map_congr_left fun id _ => hsettled id
  have hp : (s.rows ++ ids.map f).Pairwise Row.Apart := by
    refine List.pairwise_append.mpr ⟨hs.apart, ?_, fun q hq => ?_⟩
    · exact List.pairwise_map.mpr (hids.imp (hf _ _))
    · exact List.forall_mem_map.mpr fun id hid => (ha id hid q hq).symm
  have hlinked : ∀ r ∈ ids.map f, r.Linked (s.rows ++ ids.map f) :=
    List.forall_mem_map.mpr fun id hid => (hl id hid).mono fun q hq => List.mem_append_left _ hq
  have hunmet : ∀ r ∈ ids.map f, r.unmet = none := List.forall_mem_map.mpr fun id _ => hu id
  rw [insert_ok hunmet (by rwa [hmap]) (by rwa [hmap]), hmap]

end Enrollment.Store
