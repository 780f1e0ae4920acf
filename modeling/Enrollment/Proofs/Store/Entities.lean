import Enrollment.Proofs.Outcome
import Enrollment.Proofs.Store.Conformity
import Enrollment.Store.Reading

/-! # Rows and the entities they stand for

A row and its entity have one audit block and one place: the table of the kind, and the identifier.

* `matches_ofEntity`: the row of an entity has its table and its audit block.
* `ofEntity_of_toEntity?`, `toEntity?_of_ofEntity`: a row that stands for an entity is its row, and
  the row of an entity stands for it.
* `exists_row_of_find`: what is found stands for a stored row.
* `exists_row_of_mem_load`: the sections that are loaded stand for stored rows. -/

namespace Enrollment.Store

variable {s : Store} {e : Entity} {r : Row}

theorem tableOf_injective {k k' : Kind} (h : tableOf k = tableOf k') : k = k' := by
  cases k <;> cases k' <;> first | rfl | cases h

/-! ### The row of an entity -/

/-- A row is that of an entity as far as table and audit block go. -/
def Row.Matches (r : Row) (e : Entity) : Prop :=
  r.table = tableOf e.kind ∧ r.audit? = some (audit e)

theorem matches_ofEntity (h : Row.ofEntity e = .ok r) : r.Matches e := by
  cases e <;> unfold Row.ofEntity at h
  case prerequisite e =>
    obtain ⟨x, hx, rfl⟩ := map_eq_ok_iff.mp h
    simp only [PrerequisiteRow.of, bind_eq_ok_iff, pure_eq_ok_iff] at hx
    obtain ⟨_, _, _, _, rfl⟩ := hx
    exact ⟨rfl, rfl⟩
  case «section» e =>
    obtain ⟨x, hx, rfl⟩ := map_eq_ok_iff.mp h
    simp only [SectionRow.of, bind_eq_ok_iff, pure_eq_ok_iff] at hx
    obtain ⟨_, _, _, _, rfl⟩ := hx
    exact ⟨rfl, rfl⟩
  case spaceTime e =>
    obtain ⟨x, hx, rfl⟩ := map_eq_ok_iff.mp h
    simp only [SpaceTimeRow.of, bind_eq_ok_iff, pure_eq_ok_iff] at hx
    obtain ⟨_, _, rfl⟩ := hx
    exact ⟨rfl, rfl⟩
  case course e =>
    obtain ⟨x, hx, rfl⟩ := map_eq_ok_iff.mp h
    simp only [CourseRow.of, bind_eq_ok_iff, pure_eq_ok_iff] at hx
    obtain ⟨_, _, _, _, _, _, rfl⟩ := hx
    exact ⟨rfl, rfl⟩
  all_goals
    obtain rfl := Except.ok.inj h
    exact ⟨rfl, rfl⟩

theorem ofEntity_prerequisite {e : Prerequisite} {subject required : Uuid}
    (hsubject : e.subjectId = some subject) (hrequired : e.requiredSubjectId = some required) :
    Row.ofEntity (.prerequisite e) =
      .ok (.prerequisite ⟨e.audit, subject, required, e.minGrade⟩) := by
  simp only [Row.ofEntity, PrerequisiteRow.of, hsubject, hrequired]
  rfl

theorem ofEntity_section {e : Section} {subject trimester : Uuid}
    (hsubject : e.subjectId = some subject) (htrimester : e.trimesterId = some trimester) :
    Row.ofEntity (.section e) =
      .ok (.section ⟨e.audit, subject, trimester, e.maxCapacity, e.currentCapacity⟩) := by
  simp only [Row.ofEntity, SectionRow.of, hsubject, htrimester]
  rfl

theorem ofEntity_spaceTime {e : SpaceTime} {slot : Int16} (hslot : e.timeSlot = some slot) :
    Row.ofEntity (.spaceTime e) = .ok (.spaceTime
      ⟨e.audit, e.roomNumber, Named.name e.dayOfWeek, Named.name e.roomType, slot⟩) := by
  simp only [Row.ofEntity, SpaceTimeRow.of, hslot]
  rfl

theorem ofEntity_course {e : Course} {student subject trimester : Uuid}
    (hstudent : e.studentId = some student) (hsubject : e.subjectId = some subject)
    (htrimester : e.trimesterId = some trimester) :
    Row.ofEntity (.course e) = .ok (.course
      ⟨e.audit, student, subject, trimester, Named.name e.status, e.sectionId, e.grade⟩) := by
  simp only [Row.ofEntity, CourseRow.of, hstudent, hsubject, htrimester]
  rfl

theorem Row.Matches.id_eq (h : r.Matches e) : r.id = some (audit e).id := by
  obtain ⟨-, ha⟩ := h
  cases r <;> simp_all [Row.id, Row.audit?]

theorem Row.Matches.version_eq (h : r.Matches e) : r.version = some (audit e).version := by
  rw [Row.version, h.2]; rfl

/-! ### The entity of a row -/

/-- **What a row stands for has that row**, whatever the row is joined to. -/
theorem ofEntity_of_toEntity? {spaceTimeIds teacherIds : List Uuid}
    (h : r.toEntity? spaceTimeIds teacherIds = some (.ok e)) : Row.ofEntity e = .ok r := by
  cases r <;> simp only [Row.toEntity?, Option.some.injEq, map_eq_ok_iff, Except.ok.injEq,
    SubjectRow.toSubject, TrimesterRow.toTrimester, SpaceTimeRow.toSpaceTime, CourseRow.toCourse,
    NotificationRow.toNotification, FacultyRow.toFaculty, bind_eq_ok_iff, pure_eq_ok_iff,
    ofName_eq_ok_iff, reduceCtorEq] at h
  case prerequisite => subst h; rfl
  case «section» => subst h; rfl
  case student => subst h; rfl
  case trimester =>
    obtain ⟨_, ⟨season, hseason, status, hstatus, rfl⟩, rfl⟩ := h
    simp only [Row.ofEntity, TrimesterRow.of, hseason, hstatus]
  case spaceTime =>
    obtain ⟨_, ⟨day, hday, room, hroom, rfl⟩, rfl⟩ := h
    refine (ofEntity_spaceTime rfl).trans ?_
    rw [hday, hroom]
  case course =>
    obtain ⟨_, ⟨status, hstatus, rfl⟩, rfl⟩ := h
    refine (ofEntity_course rfl rfl rfl).trans ?_
    rw [hstatus]
  all_goals
    obtain ⟨_, ⟨value, hname, rfl⟩, rfl⟩ := h
    simp only [Row.ofEntity, SubjectRow.of, NotificationRow.of, FacultyRow.of, hname]

/-- **The row of an entity stands for it**, given what a section lists. -/
theorem toEntity?_of_ofEntity {spaceTimeIds teacherIds : List Uuid} (h : Row.ofEntity e = .ok r)
    (hlists : ∀ sec, e = .section sec →
      spaceTimeIds = sec.spaceTimeIds ∧ teacherIds = sec.teacherIds) :
    r.toEntity? spaceTimeIds teacherIds = some (.ok e) := by
  cases e
  case prerequisite p =>
    obtain ⟨x, hx, rfl⟩ := map_eq_ok_iff.mp h
    simp only [PrerequisiteRow.of, bind_eq_ok_iff, required_eq_ok_iff, pure_eq_ok_iff] at hx
    obtain ⟨subject, hsubject, required, hrequired, rfl⟩ := hx
    simp only [Row.toEntity?, PrerequisiteRow.toPrerequisite, ← hsubject, ← hrequired]
  case «section» sec =>
    obtain ⟨x, hx, rfl⟩ := map_eq_ok_iff.mp h
    simp only [SectionRow.of, bind_eq_ok_iff, required_eq_ok_iff, pure_eq_ok_iff] at hx
    obtain ⟨subject, hsubject, trimester, htrimester, rfl⟩ := hx
    obtain ⟨rfl, rfl⟩ := hlists sec rfl
    simp only [Row.toEntity?, SectionRow.toSection, ← hsubject, ← htrimester]
  case spaceTime t =>
    obtain ⟨x, hx, rfl⟩ := map_eq_ok_iff.mp h
    simp only [SpaceTimeRow.of, bind_eq_ok_iff, required_eq_ok_iff, pure_eq_ok_iff] at hx
    obtain ⟨slot, hslot, rfl⟩ := hx
    simp only [Row.toEntity?, SpaceTimeRow.toSpaceTime, ofName_name, ← hslot]
    rfl
  case course c =>
    obtain ⟨x, hx, rfl⟩ := map_eq_ok_iff.mp h
    simp only [CourseRow.of, bind_eq_ok_iff, required_eq_ok_iff, pure_eq_ok_iff] at hx
    obtain ⟨student, hstudent, subject, hsubject, trimester, htrimester, rfl⟩ := hx
    simp only [Row.toEntity?, CourseRow.toCourse, ofName_name, ← hstudent, ← hsubject,
      ← htrimester]
    rfl
  case student => obtain rfl := Except.ok.inj h; rfl
  all_goals
    obtain rfl := Except.ok.inj h
    simp only [Row.toEntity?, SubjectRow.toSubject, SubjectRow.of, TrimesterRow.toTrimester,
      TrimesterRow.of, NotificationRow.toNotification, NotificationRow.of, FacultyRow.toFaculty,
      FacultyRow.of, ofName_name]
    rfl

theorem matches_of_toEntity? {spaceTimeIds teacherIds : List Uuid}
    (h : r.toEntity? spaceTimeIds teacherIds = some (.ok e)) : r.Matches e :=
  matches_ofEntity (ofEntity_of_toEntity? h)

theorem isAt_of_matches (h : r.Matches e) :
    r.isAt (tableOf e.kind) (audit e).id = true := by
  simp [Row.isAt, h.1, h.id_eq]

theorem isAt_settled_of_ofEntity (h : Row.ofEntity e = .ok r) :
    r.settled.isAt (tableOf e.kind) (audit e).id = true := by
  rw [Row.isAt, Row.table_settled, Row.id_settled]
  exact isAt_of_matches (matches_ofEntity h)

/-! ### Sections and prerequisites -/

theorem SectionRow.of_eq_ok_iff {sec : Section} {r : SectionRow} : SectionRow.of sec = .ok r ↔
    sec.subjectId = some r.subjectId ∧ sec.trimesterId = some r.trimesterId ∧
      r.audit = sec.audit ∧ r.maxCapacity = sec.maxCapacity ∧
        r.currentCapacity = sec.currentCapacity := by
  simp only [SectionRow.of, bind_eq_ok_iff, required_eq_ok_iff, pure_eq_ok_iff]
  constructor
  · rintro ⟨_, hsubject, _, htrimester, rfl⟩
    exact ⟨hsubject, htrimester, rfl, rfl, rfl⟩
  · obtain ⟨audit, subjectId, trimesterId, maxCapacity, currentCapacity⟩ := r
    rintro ⟨hsubject, htrimester, rfl, rfl, rfl⟩
    exact ⟨_, hsubject, _, htrimester, rfl⟩

theorem section_of_ofEntity {e : Entity} {row : Row} {r : SectionRow}
    (h : Row.ofEntity e = .ok row) (hr : row.settled = .section r) :
    ∃ sec, e = .section sec ∧ SectionRow.of sec = .ok r := by
  have hkind : e.kind = .section := tableOf_injective <| by
    rw [← (matches_ofEntity h).1, ← Row.table_settled, hr]; rfl
  cases e <;> simp only [Entity.kind, reduceCtorEq] at hkind
  rename_i sec
  obtain ⟨x, hx, rfl⟩ := map_eq_ok_iff.mp h
  exact ⟨sec, rfl, Row.section.inj hr ▸ hx⟩

theorem section_of_toEntity? {q : Row} {e : Entity} {spaceTimeIds teacherIds : List Uuid}
    (h : q.toEntity? spaceTimeIds teacherIds = some (.ok e)) (hkind : e.kind = .section) :
    ∃ r, q = .section r ∧ e = .section (r.toSection spaceTimeIds teacherIds) := by
  have htable := (matches_of_toEntity? h).1
  rw [hkind] at htable
  cases q <;> simp only [Row.table, tableOf, reduceCtorEq] at htable
  exact ⟨_, rfl, (Except.ok.inj (Option.some.inj h)).symm⟩

theorem course_of_ofEntity {e : Entity} {row : Row} {r : CourseRow}
    (h : Row.ofEntity e = .ok row) (hr : row.settled = .course r) : ∃ c, e = .course c ∧
      c.studentId = some r.studentId ∧ c.subjectId = some r.subjectId ∧
        c.trimesterId = some r.trimesterId ∧ c.sectionId = r.sectionId := by
  have hkind : e.kind = .course := tableOf_injective <| by
    rw [← (matches_ofEntity h).1, ← Row.table_settled, hr]; rfl
  cases e <;> simp only [Entity.kind, reduceCtorEq] at hkind
  rename_i c
  obtain ⟨x, hx, rfl⟩ := map_eq_ok_iff.mp h
  obtain rfl := Row.course.inj hr
  simp only [CourseRow.of, bind_eq_ok_iff, required_eq_ok_iff, pure_eq_ok_iff] at hx
  obtain ⟨_, hstudent, _, hsubject, _, htrimester, rfl⟩ := hx
  exact ⟨c, rfl, hstudent, hsubject, htrimester, rfl⟩

theorem prerequisite_of_ofEntity {e : Entity} {row : Row} {p : PrerequisiteRow}
    (h : Row.ofEntity e = .ok row) (hp : row.settled = .prerequisite p) :
    ∃ c, e = .prerequisite c ∧ c.edge = some (p.subjectId, p.requiredSubjectId) := by
  have hkind : e.kind = .prerequisite := tableOf_injective <| by
    rw [← (matches_ofEntity h).1, ← Row.table_settled, hp]; rfl
  cases e <;> simp only [Entity.kind, reduceCtorEq] at hkind
  rename_i c
  obtain ⟨x, hx, rfl⟩ := map_eq_ok_iff.mp h
  obtain rfl := Row.prerequisite.inj hp
  simp only [PrerequisiteRow.of, bind_eq_ok_iff, required_eq_ok_iff, pure_eq_ok_iff] at hx
  obtain ⟨subject, hsubject, required, hrequired, rfl⟩ := hx
  exact ⟨c, rfl, Prerequisite.edge_eq_some_iff.mpr ⟨hsubject, hrequired⟩⟩

theorem prerequisite_of_toEntity? {q : Row} {e : Entity} {spaceTimeIds teacherIds : List Uuid}
    (h : q.toEntity? spaceTimeIds teacherIds = some (.ok e)) (hkind : e.kind = .prerequisite) :
    ∃ p, q = .prerequisite p ∧ e = .prerequisite p.toPrerequisite := by
  have htable := (matches_of_toEntity? h).1
  rw [hkind] at htable
  cases q <;> simp only [Row.table, tableOf, reduceCtorEq] at htable
  exact ⟨_, rfl, (Except.ok.inj (Option.some.inj h)).symm⟩

theorem notification_of_ofEntity {e : Entity} {row : Row} {r : NotificationRow}
    (h : Row.ofEntity e = .ok row) (hr : row.settled = .notification r) :
    ∃ n, e = .notification n ∧ r = .of n := by
  have hkind : e.kind = .notification := tableOf_injective <| by
    rw [← (matches_ofEntity h).1, ← Row.table_settled, hr]; rfl
  cases e <;> simp only [Entity.kind, reduceCtorEq] at hkind
  rename_i n
  obtain rfl := Except.ok.inj h
  exact ⟨n, rfl, (Row.notification.inj hr).symm⟩

theorem notification_of_toEntity? {q : Row} {e : Entity} {spaceTimeIds teacherIds : List Uuid}
    (h : q.toEntity? spaceTimeIds teacherIds = some (.ok e)) (hkind : e.kind = .notification) :
    ∃ n, q = .notification (.of n) ∧ e = .notification n := by
  cases e <;> simp only [Entity.kind, reduceCtorEq] at hkind
  rename_i n
  exact ⟨n, (Except.ok.inj (ofEntity_of_toEntity? h)).symm, rfl⟩

theorem exists_section_of_isAt {key : Uuid} (h : r.isAt .sections key = true) :
    ∃ q, r = .section q ∧ q.audit.id = key := by
  obtain ⟨ht, hid⟩ := Row.isAt_iff.mp h
  cases r <;> simp only [Row.table, reduceCtorEq] at ht
  exact ⟨_, rfl, Option.some.inj hid⟩

theorem exists_course_of_isAt {key : Uuid} (h : r.isAt .courses key = true) :
    ∃ q, r = .course q ∧ q.audit.id = key := by
  obtain ⟨ht, hid⟩ := Row.isAt_iff.mp h
  cases r <;> simp only [Row.table, reduceCtorEq] at ht
  exact ⟨_, rfl, Option.some.inj hid⟩

theorem Conforms.section_eq {r q : SectionRow} (hs : s.Conforms) (hr : r ∈ s.sections)
    (hq : q ∈ s.sections) (hid : r.audit.id = q.audit.id) : r = q :=
  Row.section.inj (hs.eq_of_isAt (mem_typed_iff.mp hr) (mem_typed_iff.mp hq)
    (Row.isAt_iff.mpr ⟨rfl, congrArg some hid⟩) (Row.isAt_iff.mpr ⟨rfl, rfl⟩))

theorem Conforms.course_eq {r q : CourseRow} (hs : s.Conforms) (hr : r ∈ s.courses)
    (hq : q ∈ s.courses) (hid : r.audit.id = q.audit.id) : r = q :=
  Row.course.inj (hs.eq_of_isAt (mem_typed_iff.mp hr) (mem_typed_iff.mp hq)
    (Row.isAt_iff.mpr ⟨rfl, congrArg some hid⟩) (Row.isAt_iff.mpr ⟨rfl, rfl⟩))

/-! ### What is found -/

/-- A stored row with an identifier stands for an entity, given what it is joined to. -/
def Holds (s : Store) (kind : Kind) (key : Uuid) (e : Entity) : Prop :=
  ∃ r ∈ s.rows, r.isAt (tableOf kind) key = true ∧
    r.toEntity? (s.spaceTimeIds key) (s.teacherIds key) = some (.ok e)

theorem head?_of_mapM {ρ α : Type} [RowType ρ] {f : ρ → Except RowFault α} {p : ρ → Bool}
    {g : α → Entity} (h : (((s.typed ρ).filter p).mapM f).map (fun es => es.head?.map g) =
      .ok (some e)) :
    ∃ r a, RowType.toRow r ∈ s.rows ∧ p r = true ∧ f r = .ok a ∧ g a = e := by
  obtain ⟨es, hes, h⟩ := map_eq_ok_iff.mp h
  obtain ⟨a, ha, rfl⟩ := Option.map_eq_some_iff.mp h
  obtain ⟨r, hr, hf⟩ := (mem_iff_of_mapM hes).mp (List.mem_of_mem_head? ha)
  obtain ⟨hr, hp⟩ := List.mem_filter.mp hr
  exact ⟨r, a, mem_typed_iff.mp hr, hp, hf, rfl⟩

theorem head?_of_map {ρ α : Type} [RowType ρ] {f : ρ → α} {p : ρ → Bool} {a : α}
    (h : (((s.typed ρ).filter p).map f).head? = some a) :
    ∃ r, RowType.toRow r ∈ s.rows ∧ p r = true ∧ f r = a := by
  obtain ⟨r, hr, rfl⟩ := List.mem_map.mp (List.mem_of_mem_head? h)
  obtain ⟨hr, hp⟩ := List.mem_filter.mp hr
  exact ⟨r, mem_typed_iff.mp hr, hp, rfl⟩

theorem exists_row_of_findSection {key : Uuid} {sec : Section} (h : s.findSection key = some sec) :
    ∃ r ∈ s.sections, r.audit.id = key ∧ s.joined r = sec := by
  rw [findSection, head?_selectSections, ← List.head?_map] at h
  obtain ⟨r, hr, hp, rfl⟩ := head?_of_map h
  exact ⟨r, mem_typed_iff.mpr hr, by simpa using hp, rfl⟩

theorem exists_row_of_find {kind : Kind} {key : Uuid} (h : s.find kind key = .ok (some e)) :
    s.Holds kind key e := by
  -- the kinds whose rows may stand for nothing, then the three whose rows never do
  cases kind
  case prerequisite =>
    obtain ⟨a, ha, rfl⟩ := Option.map_eq_some_iff.mp (Except.ok.inj h)
    obtain ⟨r, hr, hp, rfl⟩ := head?_of_map ha
    exact ⟨_, hr, Row.isAt_iff.mpr ⟨rfl, congrArg some (by simpa using hp)⟩, rfl⟩
  case «section» =>
    obtain ⟨a, ha, rfl⟩ := Option.map_eq_some_iff.mp (Except.ok.inj h)
    obtain ⟨r, hr, rfl, rfl⟩ := exists_row_of_findSection ha
    exact ⟨_, mem_typed_iff.mp hr, Row.isAt_iff.mpr ⟨rfl, rfl⟩, rfl⟩
  case student =>
    obtain ⟨a, ha, rfl⟩ := Option.map_eq_some_iff.mp (Except.ok.inj h)
    obtain ⟨r, hr, hp, rfl⟩ := head?_of_map ha
    exact ⟨_, hr, Row.isAt_iff.mpr ⟨rfl, congrArg some (by simpa using hp)⟩, rfl⟩
  all_goals
    obtain ⟨r, a, hr, hp, hf, rfl⟩ := head?_of_mapM h
    refine ⟨_, hr, Row.isAt_iff.mpr ⟨rfl, congrArg some (by simpa using hp)⟩, ?_⟩
    exact congrArg some (map_eq_ok_iff.mpr ⟨a, hf, rfl⟩)

theorem Holds.matches {kind : Kind} {key : Uuid} (h : s.Holds kind key e) :
    e.kind = kind ∧ (audit e).id = key := by
  obtain ⟨r, -, hat, he⟩ := h
  obtain ⟨ht, hid⟩ := Row.isAt_iff.mp hat
  have hm := matches_of_toEntity? he
  exact ⟨tableOf_injective (hm.1.symm.trans ht), Option.some.inj (hm.id_eq.symm.trans hid)⟩

/-! ### What is loaded -/

theorem exists_row_of_mem_load {old : Option Entity} {snapshot : Snapshot} {sec : Section}
    (hs : s.Conforms) (h : s.load e old = .ok snapshot) (hsec : sec ∈ snapshot.sections) :
    ∃ r ∈ s.sections, s.joined r = sec := by
  have hselect : ∀ p, sec ∈ s.selectSections p → ∃ r ∈ s.sections, s.joined r = sec := by
    intro p hp
    rw [selectSections_eq_map hs.nodup_sectionIds] at hp
    obtain ⟨r, hr, rfl⟩ := List.mem_map.mp hp
    exact ⟨r, (List.mem_filter.mp hr).1, rfl⟩
  cases e <;> simp only [load, loadSubject, loadPrerequisite, loadTrimester, loadSpaceTime,
    loadSection, loadCourse, loadNotification, bind_eq_ok_iff, pure_eq_ok_iff] at h
  case «section» => obtain ⟨_, _, _, _, _, _, _, _, rfl⟩ := h; exact hselect _ hsec
  case course => obtain ⟨_, _, _, _, _, _, rfl⟩ := h; exact hselect _ hsec
  case notification => obtain ⟨_, _, _, _, rfl⟩ := h; exact hselect _ hsec
  case student => obtain rfl := Except.ok.inj h; exact absurd hsec List.not_mem_nil
  case faculty => obtain rfl := Except.ok.inj h; exact absurd hsec List.not_mem_nil
  all_goals
    obtain ⟨_, _, rfl⟩ := h
    exact absurd hsec List.not_mem_nil

end Enrollment.Store
