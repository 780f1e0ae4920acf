import Enrollment.Proofs.Fields
import Enrollment.Proofs.Store.Entities

/-! # Nothing is lost between rows and entities

Every entity whose fields are as they have to be has a row, and the row stands for that entity. A
row stands for an entity iff its columns of names hold names, and then it is the row of what it
stands for; it stands for nothing, and the column at fault is told, if one of them does not.

* `exists_ofEntity`: what a column requires is what the constraints of the kind ask for.
* `exists_reads`: the reading of a row fails at the first text that is no name, and there alone.
* `conversion_faithful`: nothing is lost either way. -/

namespace Enrollment.Store

variable {e : Entity} {r : Row} {f : RowFault} {slots teachers : List Uuid}

/-! ### The row of an entity -/

/-- **An entity has a row** if the constraints of its kind find no defect, since they ask for all
that the columns require. -/
theorem exists_ofEntity (h : ∀ f ∈ e.ownFindings, f.defect = none) :
    ∃ r, Row.ofEntity e = .ok r := by
  cases e
  case prerequisite =>
    obtain ⟨_, _, hedge⟩ := Prerequisite.exists_edge (forall_findings_iff.mp h)
    obtain ⟨hsubject, hrequired⟩ := Prerequisite.edge_eq_some_iff.mp hedge
    exact ⟨_, ofEntity_prerequisite hsubject hrequired⟩
  case «section» =>
    obtain ⟨⟨_, hsubject⟩, _, htrimester⟩ := Section.exists_references (forall_findings_iff.mp h)
    exact ⟨_, ofEntity_section hsubject htrimester⟩
  case spaceTime =>
    obtain ⟨_, hslot⟩ := SpaceTime.exists_slot_of_fields (forall_findings_iff.mp h)
    exact ⟨_, ofEntity_spaceTime hslot⟩
  case course =>
    obtain ⟨⟨_, hstudent⟩, ⟨_, hsubject⟩, _, htrimester⟩ :=
      Course.exists_references (forall_findings_iff.mp h)
    exact ⟨_, ofEntity_course hstudent hsubject htrimester⟩
  all_goals exact ⟨_, rfl⟩

/-! ### Names -/

/-- The names of the values of an enumeration. -/
def names (α : Type) [Named α] : List String := (Named.all : List α).map Named.name

theorem mem_names_iff {α : Type} [Named α] {value : String} :
    value ∈ names α ↔ ∃ a : α, Named.name a = value := by
  simp only [names, List.mem_map, Named.mem_all, true_and]

/-- The columns of a table that hold names, in the order in which they are read, each with the names
that it may hold. -/
def Table.vocabulary : Table → List (Column × List String)
  | .subjects => [(.subjectType, names SubjectType)]
  | .trimesters => [(.season, names Season), (.status, names TrimesterStatus)]
  | .spaceTimes => [(.dayOfWeek, names DayOfWeek), (.roomType, names RoomType)]
  | .courses => [(.status, names CourseStatus)]
  | .notifications => [(.scope, names Scope)]
  | .faculties => [(.userType, names UserType)]
  | _ => []

/-- A column of names holds a text that is none of them. -/
def Row.Misspells (r : Row) (column : Column) (value : String) : Prop :=
  ∃ known, (column, known) ∈ r.table.vocabulary ∧ r.cell column = .text value ∧ value ∉ known

/-- The fault of a text that is none of the names that a column may hold. -/
def faults (column : Column) (known : List String) : Cell → List RowFault
  | .text value => if value ∈ known then [] else [.unknown column value]
  | _ => []

/-- The faults of a row, in the order in which its columns are read. -/
def Row.faults (r : Row) : List RowFault :=
  r.table.vocabulary.flatMap fun p => Store.faults p.1 p.2 (r.cell p.1)

theorem mem_faults_iff :
    f ∈ r.faults ↔ ∃ column value, r.Misspells column value ∧ f = .unknown column value := by
  simp only [Row.faults, List.mem_flatMap, Prod.exists, Row.Misspells]
  constructor
  · rintro ⟨column, known, hknown, hf⟩
    cases hcell : r.cell column with
    | text value =>
      rw [hcell, Store.faults] at hf
      split at hf
      · cases hf
      · exact ⟨column, value, ⟨known, hknown, hcell, ‹_›⟩, List.mem_singleton.mp hf⟩
    | _ => rw [hcell] at hf; cases hf
  · rintro ⟨column, value, ⟨known, hknown, hcell, hvalue⟩, rfl⟩
    refine ⟨column, known, hknown, ?_⟩
    rw [hcell, Store.faults, if_neg hvalue]
    exact List.mem_singleton_self _

/-! ### Reading -/

/-- What a reading comes to: something if nothing is at fault, and the first fault otherwise. -/
def Reads {α : Type} (x : Except RowFault α) : List RowFault → Prop
  | [] => ∃ a, x = .ok a
  | f :: _ => x = .error f

namespace Reads

variable {α β : Type} {x : Except RowFault α} {fs gs : List RowFault}

theorem ok (a : α) : Reads (.ok a) [] := ⟨a, rfl⟩

theorem bind {g : α → Except RowFault β} (hx : Reads x fs) (hg : ∀ a, Reads (g a) gs) :
    Reads (x >>= g) (fs ++ gs) := by
  cases fs with
  | nil =>
    obtain ⟨a, rfl⟩ := hx
    exact hg a
  | cons f fs => exact congrArg (· >>= g) hx

theorem map {g : α → β} (hx : Reads x fs) : Reads (x.map g) fs := by
  cases fs with
  | nil =>
    obtain ⟨a, rfl⟩ := hx
    exact ok (g a)
  | cons f fs => exact congrArg (Except.map g) hx

theorem ofName [Named α] (column : Column) (value : String) :
    Reads (Store.ofName column value : Except RowFault α)
      (Store.faults column (names α) (.text value)) := by
  by_cases h : value ∈ names α
  · obtain ⟨a, ha⟩ := mem_names_iff.mp h
    rw [Store.faults, if_pos h]
    exact ⟨a, ofName_eq_ok_iff.mpr ha⟩
  · rw [Store.faults, if_neg h, Store.ofName]
    split
    · rename_i a ha
      exact absurd (mem_names_iff.mpr ⟨a, Named.ofName?_eq_some_iff.mp ha⟩) h
    · rfl

end Reads

/-- **The reading of a row of a kind** fails at the first of its faults, and succeeds if there is
none, whatever the row is joined to. -/
theorem exists_reads {kind : Kind} (h : r.table = tableOf kind) (slots teachers : List Uuid) :
    ∃ x, r.toEntity? slots teachers = some x ∧ Reads x r.faults := by
  -- by how many names are read: two, none, and one in the rows that remain
  cases r
  case sectionSpaceTime => cases kind <;> cases h
  case sectionTeacher => cases kind <;> cases h
  case trimester =>
    exact ⟨_, rfl, .map (.bind (.ofName _ _) fun _ => .bind (.ofName _ _) fun _ => .ok _)⟩
  case spaceTime =>
    exact ⟨_, rfl, .map (.bind (.ofName _ _) fun _ => .bind (.ofName _ _) fun _ => .ok _)⟩
  case prerequisite => exact ⟨_, rfl, .ok _⟩
  case «section» => exact ⟨_, rfl, .ok _⟩
  case student => exact ⟨_, rfl, .ok _⟩
  all_goals exact ⟨_, rfl, .map (.bind (.ofName _ _) fun _ => .ok _)⟩

/-- A row whose columns of names hold names is the row of what it stands for. -/
theorem exists_toEntity?_of_spelled {kind : Kind} (h : r.table = tableOf kind)
    (hspelled : ∀ column value, ¬ r.Misspells column value) (slots teachers : List Uuid) :
    ∃ e, r.toEntity? slots teachers = some (.ok e) ∧ Row.ofEntity e = .ok r := by
  have hfaults : r.faults = [] := by
    refine List.eq_nil_iff_forall_not_mem.mpr fun f hf => ?_
    obtain ⟨column, value, hmisspells, -⟩ := mem_faults_iff.mp hf
    exact hspelled column value hmisspells
  obtain ⟨x, hx, hreads⟩ := exists_reads h slots teachers
  rw [hfaults] at hreads
  obtain ⟨e, rfl⟩ := hreads
  exact ⟨e, hx, ofEntity_of_toEntity? hx⟩

/-- A row with a text that is no name stands for nothing, and it is told which. -/
theorem toEntity?_of_misspells {kind : Kind} {column : Column} {value : String}
    (h : r.table = tableOf kind) (hmisspells : r.Misspells column value)
    (slots teachers : List Uuid) : ∃ column value, r.Misspells column value ∧
      r.toEntity? slots teachers = some (.error (.unknown column value)) := by
  have hmem : .unknown column value ∈ r.faults := mem_faults_iff.mpr ⟨_, _, hmisspells, rfl⟩
  obtain ⟨x, hx, hreads⟩ := exists_reads h slots teachers
  cases hfaults : r.faults with
  | nil => rw [hfaults] at hmem; cases hmem
  | cons f fs =>
    obtain ⟨column, value, hfirst, rfl⟩ := mem_faults_iff.mp (hfaults ▸ List.mem_cons_self)
    rw [hfaults] at hreads
    exact ⟨column, value, hfirst, hx.trans (congrArg some hreads)⟩

/-- **Nothing is lost between rows and entities.** An entity in which the constraints of its kind
find no defect has a row, and the row stands for that entity, given what a section lists. A row of
any kind whose columns of names hold names stands for an entity, which has that row, whatever it is
joined to. A row with a text in one of these columns that is no name stands for nothing, and such a
text is told. -/
theorem conversion_faithful :
    (∀ e : Entity, (∀ f ∈ e.ownFindings, f.defect = none) → ∃ r, Row.ofEntity e = .ok r ∧
      ∀ slots teachers,
        (∀ sec, e = .section sec → slots = sec.spaceTimeIds ∧ teachers = sec.teacherIds) →
          r.toEntity? slots teachers = some (.ok e)) ∧
    ∀ (r : Row) (kind : Kind), r.table = tableOf kind → ∀ slots teachers,
      ((∀ column value, ¬ r.Misspells column value) →
        ∃ e, r.toEntity? slots teachers = some (.ok e) ∧ Row.ofEntity e = .ok r) ∧
      ((∃ column value, r.Misspells column value) → ∃ column value, r.Misspells column value ∧
        r.toEntity? slots teachers = some (.error (.unknown column value))) := by
  refine ⟨fun e h => ?_, fun r kind htable slots teachers => ⟨fun hspelled => ?_, ?_⟩⟩
  · obtain ⟨r, hr⟩ := exists_ofEntity h
    exact ⟨r, hr, fun _ _ => toEntity?_of_ofEntity hr⟩
  · exact exists_toEntity?_of_spelled htable hspelled slots teachers
  · rintro ⟨column, value, hmisspells⟩
    exact toEntity?_of_misspells htable hmisspells slots teachers

namespace Sample

/-- A section with two space times and a teacher. -/
def taught : Section :=
  ⟨.fresh ⟨1⟩ "registrar" .epoch, some ⟨2⟩, some ⟨3⟩, 30, 0, [⟨4⟩, ⟨5⟩], [⟨6⟩]⟩

/-- The row of a trimester of 2024 that is under way, with a text for its season. -/
def trimesterRow (season : String) : Row :=
  .trimester ⟨.fresh ⟨3⟩ "registrar" .epoch, 2024, season, 241, "ONGOING", none, none, none, none⟩

end Sample

theorem conversion_of_samples :
    (∃ r, Row.ofEntity (.section Sample.taught) = .ok r ∧
      r.toEntity? [⟨4⟩, ⟨5⟩] [⟨6⟩] = some (.ok (.section Sample.taught))) ∧
    (∃ e, (Sample.trimesterRow "SPRING").toEntity? [] [] = some (.ok e) ∧
      Row.ofEntity e = .ok (Sample.trimesterRow "SPRING")) ∧
    ∃ column value, (Sample.trimesterRow "Spring").Misspells column value ∧
      (Sample.trimesterRow "Spring").toEntity? [] [] = some (.error (.unknown column value)) := by
  obtain ⟨hentity, hrow⟩ := conversion_faithful
  refine ⟨?_, (hrow (Sample.trimesterRow "SPRING") .trimester rfl [] []).1 ?_,
    (hrow (Sample.trimesterRow "Spring") .trimester rfl [] []).2 ?_⟩
  · obtain ⟨r, hr, hback⟩ := hentity (.section Sample.taught) (by decide +kernel)
    exact ⟨r, hr, hback _ _ fun sec h => Entity.section.inj h ▸ ⟨rfl, rfl⟩⟩
  · rintro column value ⟨known, hknown, hcell, hvalue⟩
    have hnone : (Sample.trimesterRow "SPRING").faults = [] := by decide +kernel
    exact List.not_mem_nil (hnone ▸ mem_faults_iff.mpr ⟨_, _, ⟨known, hknown, hcell, hvalue⟩, rfl⟩)
  · exact ⟨.season, "Spring", _, List.mem_cons_self, rfl, by decide +kernel⟩

end Enrollment.Store
