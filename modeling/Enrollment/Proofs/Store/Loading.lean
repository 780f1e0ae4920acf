import Enrollment.Proofs.Footprint
import Enrollment.Proofs.Sample
import Enrollment.Proofs.Store.Closure
import Enrollment.Proofs.Store.Entities

/-! # A part of the store is as good as all of it

What is loaded for a candidate is a part of what is stored. The rules look up nothing that the part
lacks: where they ask for one row, a unique index leaves no choice, and where they ask for several,
all of them have been loaded. Nothing depends on the order in which rows come.

* `rowById_eq`, `find?_eq`: a row is found in the part iff it is found in the whole.
* `agree_of_load`: the part and the whole agree on what the rules look up.
* `load_decides`: the verdicts on a part and on the whole are alike. -/

namespace Enrollment.Store

/-- The text of a row in each column of an enumeration is the name of a value. -/
def Row.isReadable (r : Row) : Bool :=
  match r.toEntity? [] [] with
  | some (.error _) => false
  | _ => true

/-- Each row stands for something. -/
def Readable (s : Store) : Prop := ∀ r ∈ s.rows, r.isReadable = true

instance (s : Store) : Decidable s.Readable :=
  inferInstanceAs (Decidable (∀ r ∈ s.rows, r.isReadable = true))

/-- All that is stored, as a snapshot. -/
def snapshot (s : Store) : Except RowFault Snapshot := do
  let subjects ← s.selectSubjects fun _ => true
  let trimesters ← s.selectTrimesters fun _ => true
  let spaceTimes ← s.selectSpaceTimes fun _ => true
  let courses ← s.selectCourses fun _ => true
  let notifications ← s.selectNotifications fun _ => true
  let faculties ← s.selectFaculties fun _ => true
  return {
    subjects, trimesters, spaceTimes, courses, notifications, faculties
    prerequisites := s.selectPrerequisites fun _ => true
    sections := s.selectSections fun _ => true
    students := s.selectStudents fun _ => true }

theorem mem_typed_perm_iff {ρ : Type} [RowType ρ] {s s' : Store} {r : ρ}
    (hp : s'.rows.Perm s.rows) : r ∈ s'.typed ρ ↔ r ∈ s.typed ρ := by
  rw [mem_typed_iff, mem_typed_iff, hp.mem_iff]

/-! ### Readers -/

/-- How the rows of a type are read: each stands for one thing of a kind. -/
structure Reader (ρ α : Type) [RowType ρ] [Audited α] where
  kind : Kind
  read : ρ → Except RowFault α
  wrap : α → Entity
  kind_wrap : ∀ a, (wrap a).kind = kind := by intro a; rfl
  audit_wrap : ∀ a, audit (wrap a) = audit a := by intro a; rfl
  toEntity?_eq : ∀ r, (RowType.toRow r).toEntity? [] [] = some ((read r).map wrap) := by
    intro r; rfl

namespace Reader

def subjects : Reader SubjectRow Subject where
  kind := .subject
  read := SubjectRow.toSubject
  wrap := .subject

def trimesters : Reader TrimesterRow Trimester where
  kind := .trimester
  read := TrimesterRow.toTrimester
  wrap := .trimester

def spaceTimes : Reader SpaceTimeRow SpaceTime where
  kind := .spaceTime
  read := SpaceTimeRow.toSpaceTime
  wrap := .spaceTime

def students : Reader StudentRow Student where
  kind := .student
  read r := .ok r.toStudent
  wrap := .student

def faculties : Reader FacultyRow Faculty where
  kind := .faculty
  read := FacultyRow.toFaculty
  wrap := .faculty

def courses : Reader CourseRow Course where
  kind := .course
  read := CourseRow.toCourse
  wrap := .course

def notifications : Reader NotificationRow Notification where
  kind := .notification
  read := NotificationRow.toNotification
  wrap := .notification

/-- Sections without what they are joined to. -/
def bareSections : Reader SectionRow Section where
  kind := .section
  read r := .ok (r.toSection [] [])
  wrap := .section

variable {ρ α : Type} [RowType ρ] [Audited α] (R : Reader ρ α) {s : Store} {r : ρ} {a : α}

theorem isAt_of_read (h : R.read r = .ok a) :
    (RowType.toRow r).isAt (tableOf R.kind) (Audited.id a) = true := by
  have he : (RowType.toRow r).toEntity? [] [] = some (.ok (R.wrap a)) := by
    rw [R.toEntity?_eq, h]; rfl
  have hat := isAt_of_matches (matches_of_toEntity? he)
  rwa [R.kind_wrap, R.audit_wrap] at hat

theorem exists_read (hs : s.Readable) (hr : r ∈ s.typed ρ) : ∃ a, R.read r = .ok a := by
  have hreadable := hs _ (mem_typed_iff.mp hr)
  rw [Row.isReadable, R.toEntity?_eq] at hreadable
  cases h : R.read r with
  | ok a => exact ⟨a, rfl⟩
  | error fault => rw [h] at hreadable; cases hreadable

theorem exists_select (hs : s.Readable) (p : ρ → Bool) :
    ∃ as, ((s.typed ρ).filter p).mapM R.read = .ok as := by
  have hread : ∀ r ∈ (s.typed ρ).filter p, ∃ a, R.read r = .ok a :=
    fun r hr => R.exists_read hs (List.mem_filter.mp hr).1
  generalize (s.typed ρ).filter p = rows at hread
  induction rows with
  | nil => exact ⟨[], rfl⟩
  | cons r rows ih =>
    obtain ⟨a, ha⟩ := hread r List.mem_cons_self
    obtain ⟨as, has⟩ := ih fun x hx => hread x (List.mem_cons_of_mem _ hx)
    exact ⟨a :: as, by rw [List.mapM_cons, ha, has]; rfl⟩

/-- A list holds what the selected rows stand for. -/
def Selects (s : Store) (p : ρ → Bool) (as : List α) : Prop :=
  ∀ a, a ∈ as ↔ ∃ r ∈ s.typed ρ, p r = true ∧ R.read r = .ok a

theorem selects_of_mapM {p : ρ → Bool} {as : List α}
    (h : ((s.typed ρ).filter p).mapM R.read = .ok as) : R.Selects s p as := by
  intro a
  rw [mem_iff_of_mapM h]
  simp only [List.mem_filter, and_assoc]

theorem selects_map {f : ρ → α} (hf : ∀ r, R.read r = .ok (f r)) (p : ρ → Bool) :
    R.Selects s p (((s.typed ρ).filter p).map f) := by
  intro a
  simp only [List.mem_map, List.mem_filter, and_assoc, hf, Except.ok.injEq]

variable {s' : Store} {p : ρ → Bool} {q : α → Bool} {part whole : List α}

theorem table_of_read (h : R.read r = .ok a) : (RowType.toRow r).table = tableOf R.kind :=
  (Row.isAt_iff.mp (R.isAt_of_read h)).1

/-- A unique index leaves one thing at most that has given values in its columns. -/
theorem eq_of_read {columns : List Column} {k : Column → Cell} {r x : ρ} {a b : α}
    (hs : s.Conforms) (hk : columns ∈ keys (tableOf R.kind)) (hr : r ∈ s.typed ρ)
    (hx : x ∈ s.typed ρ) (hra : R.read r = .ok a) (hxb : R.read x = .ok b)
    (hrcells : ∀ c ∈ columns, (RowType.toRow r).cell c = k c ∧ k c ≠ .null)
    (hxcells : ∀ c ∈ columns, (RowType.toRow x).cell c = k c ∧ k c ≠ .null) : a = b := by
  have hagrees : (RowType.toRow r).agrees (RowType.toRow x) columns = true := by
    refine Row.agrees_iff.mpr
      ⟨(R.table_of_read hra).trans (R.table_of_read hxb).symm, fun c hc => ?_⟩
    obtain ⟨hrc, hne⟩ := hrcells c hc
    exact ⟨hrc ▸ hne, hrc.trans (hxcells c hc).1.symm⟩
  have hrow : RowType.toRow r = RowType.toRow x :=
    hs.eq_of_agrees (mem_typed_iff.mp hr) (mem_typed_iff.mp hx)
      ((R.table_of_read hra).symm ▸ hk) hagrees
  obtain rfl : r = x := by
    have hr' := (RowType.ofRow?_eq_some_iff (r := RowType.toRow r) (a := r)).mpr rfl
    rw [hrow, (RowType.ofRow?_eq_some_iff (a := x)).mpr rfl] at hr'
    exact (Option.some.inj hr').symm
  exact Except.ok.inj (hra.symm.trans hxb)

omit [Audited α] in
/-- The same thing is found in two lists that share what fits, if no two things in them do. -/
theorem find?_eq_of_shared (hsame : ∀ a, q a = true → (a ∈ part ↔ a ∈ whole))
    (hone : ∀ a ∈ part, ∀ b ∈ part, q a = true → q b = true → a = b) :
    part.find? q = whole.find? q := by
  cases hf : part.find? q with
  | none =>
    rw [eq_comm, List.find?_eq_none]
    intro a ha hqa
    exact List.find?_eq_none.mp hf a ((hsame a hqa).mpr ha) hqa
  | some a =>
    have hqa := List.find?_some hf
    have ha := List.mem_of_find?_eq_some hf
    cases hg : whole.find? q with
    | none => exact absurd hqa (List.find?_eq_none.mp hg a ((hsame a hqa).mp ha))
    | some b =>
      have hqb := List.find?_some hg
      have hb := (hsame b hqb).mpr (List.mem_of_find?_eq_some hg)
      rw [hone a ha b hb hqa hqb]

/-- **A row is found in the part iff it is found in the whole**: a unique index leaves one at most
that fits, and that one has been selected. -/
theorem find?_eq {columns : List Column} {k : Column → Cell} (hs : s.Conforms)
    (hp : s'.rows.Perm s.rows) (hpart : R.Selects s p part)
    (hwhole : R.Selects s' (fun _ => true) whole) (hk : columns ∈ keys (tableOf R.kind))
    (hcells : ∀ r a, R.read r = .ok a → q a = true →
      ∀ c ∈ columns, (RowType.toRow r).cell c = k c ∧ k c ≠ .null)
    (hsel : ∀ r a, R.read r = .ok a → q a = true → p r = true) :
    part.find? q = whole.find? q := by
  refine find?_eq_of_shared (fun a ha => ?_) fun a ha b hb hqa hqb => ?_
  · rw [hpart a, hwhole a]
    constructor
    · rintro ⟨r, hr, -, hra⟩
      exact ⟨r, (mem_typed_perm_iff hp).mpr hr, rfl, hra⟩
    · rintro ⟨r, hr, -, hra⟩
      exact ⟨r, (mem_typed_perm_iff hp).mp hr, hsel r a hra ha, hra⟩
  · obtain ⟨r, hr, -, hra⟩ := (hpart a).mp ha
    obtain ⟨x, hx, -, hxb⟩ := (hpart b).mp hb
    exact R.eq_of_read hs hk hr hx hra hxb (hcells r a hra hqa) (hcells x b hxb hqb)

theorem find?_eq_of_column {column : Column} {k : Cell} (hs : s.Conforms)
    (hp : s'.rows.Perm s.rows) (hpart : R.Selects s p part)
    (hwhole : R.Selects s' (fun _ => true) whole) (hk : [column] ∈ keys (tableOf R.kind))
    (hne : k ≠ .null) (hfits : ∀ r a, R.read r = .ok a → q a = true →
      (RowType.toRow r).cell column = k ∧ p r = true) :
    part.find? q = whole.find? q := by
  refine R.find?_eq (k := fun _ => k) hs hp hpart hwhole hk (fun r a hra ha c hc => ?_)
    fun r a hra ha => (hfits r a hra ha).2
  obtain rfl := List.mem_singleton.mp hc
  exact ⟨(hfits r a hra ha).1, hne⟩

theorem rowById_eq {id : Uuid} (hs : s.Conforms) (hp : s'.rows.Perm s.rows)
    (hpart : R.Selects s p part) (hwhole : R.Selects s' (fun _ => true) whole)
    (hsel : ∀ r : ρ, (RowType.toRow r).id = some id → p r = true) :
    rowById id part = rowById id whole := by
  refine R.find?_eq_of_column (k := .uuid id) hs hp hpart hwhole
    (List.mem_append_right _ (List.mem_singleton.mpr rfl)) nofun fun r a hra ha => ?_
  have hid : (RowType.toRow r).id = some id := by
    rw [(Row.isAt_iff.mp (R.isAt_of_read hra)).2, beq_iff_eq.mp ha]
  exact ⟨by rw [Row.cell_id, hid]; rfl, hsel r hid⟩

end Reader

variable {s s' : Store} {whole : Snapshot} {id : Uuid}

/-! ### What the whole holds -/

/-- The lists of a snapshot are all that the rows of a store stand for. -/
structure IsWhole (s : Store) (whole : Snapshot) : Prop where
  subjects : Reader.subjects.Selects s (fun _ => true) whole.subjects
  trimesters : Reader.trimesters.Selects s (fun _ => true) whole.trimesters
  spaceTimes : Reader.spaceTimes.Selects s (fun _ => true) whole.spaceTimes
  courses : Reader.courses.Selects s (fun _ => true) whole.courses
  faculties : Reader.faculties.Selects s (fun _ => true) whole.faculties
  students : Reader.students.Selects s (fun _ => true) whole.students
  prerequisites : whole.prerequisites = s.selectPrerequisites fun _ => true
  sections : whole.sections = s.selectSections fun _ => true

theorem isWhole_of_snapshot (h : s.snapshot = .ok whole) : s.IsWhole whole := by
  simp only [snapshot, bind_eq_ok_iff, pure_eq_ok_iff] at h
  obtain ⟨_, h₁, _, h₂, _, h₃, _, h₄, _, -, _, h₆, rfl⟩ := h
  exact ⟨Reader.subjects.selects_of_mapM h₁, Reader.trimesters.selects_of_mapM h₂,
    Reader.spaceTimes.selects_of_mapM h₃, Reader.courses.selects_of_mapM h₄,
    Reader.faculties.selects_of_mapM h₆, Reader.students.selects_map (fun _ => rfl) _, rfl, rfl⟩

theorem exists_snapshot (hs : s.Readable) : ∃ whole, s.snapshot = .ok whole := by
  obtain ⟨subjects, h₁⟩ := Reader.subjects.exists_select hs fun _ => true
  obtain ⟨trimesters, h₂⟩ := Reader.trimesters.exists_select hs fun _ => true
  obtain ⟨spaceTimes, h₃⟩ := Reader.spaceTimes.exists_select hs fun _ => true
  obtain ⟨courses, h₄⟩ := Reader.courses.exists_select hs fun _ => true
  obtain ⟨notifications, h₅⟩ := Reader.notifications.exists_select hs fun _ => true
  obtain ⟨faculties, h₆⟩ := Reader.faculties.exists_select hs fun _ => true
  exact ⟨_, bind_eq_ok_iff.mpr ⟨subjects, h₁, bind_eq_ok_iff.mpr ⟨trimesters, h₂,
    bind_eq_ok_iff.mpr ⟨spaceTimes, h₃, bind_eq_ok_iff.mpr ⟨courses, h₄,
      bind_eq_ok_iff.mpr ⟨notifications, h₅, bind_eq_ok_iff.mpr ⟨faculties, h₆, rfl⟩⟩⟩⟩⟩⟩⟩

/-! ### Sections -/

theorem rowById_bare (sections : List Section) :
    (rowById id sections).map Section.bare = rowById id (sections.map Section.bare) := by
  unfold rowById
  rw [List.find?_map]
  rfl

theorem map_bare_assemble (spaceTimes teachers : Listing) (rows : List SectionRow) :
    (assemble spaceTimes teachers rows).map Section.bare = rows.map (·.toSection [] []) := by
  induction rows generalizing spaceTimes teachers with
  | nil => rfl
  | cons r rows ih => rw [assemble, List.map_cons, List.map_cons, ih]; rfl

theorem selects_bare (s : Store) (p : SectionRow → Bool) :
    Reader.bareSections.Selects s p ((s.selectSections p).map Section.bare) := by
  rw [selectSections, map_bare_assemble]
  exact Reader.bareSections.selects_map (fun _ => rfl) p

theorem sectionAt_eq {p : SectionRow → Bool} (hs : s.Conforms) (hp : s'.rows.Perm s.rows)
    (hsel : ∀ r : SectionRow, r.audit.id = id → p r = true) :
    (rowById id (s.selectSections p)).map Section.bare =
      (rowById id (s'.selectSections fun _ => true)).map Section.bare := by
  rw [rowById_bare, rowById_bare]
  exact Reader.bareSections.rowById_eq hs hp (selects_bare s p) (selects_bare s' _)
    fun r hid => hsel r (Option.some.inj hid)

/-- What a section of the trimester has booked is seen in the part iff it is seen in the whole. -/
theorem books_iff {p : SectionRow → Bool} {part whole : Snapshot} {trimester key slot : Uuid}
    (hs : s.Conforms) (hp : s'.rows.Perm s.rows) (hpart : part.sections = s.selectSections p)
    (hwhole : whole.sections = s'.selectSections fun _ => true)
    (hsel : ∀ r : SectionRow, r.trimesterId = trimester → p r = true) :
    part.lookup.Books trimester key slot ↔ whole.lookup.Books trimester key slot := by
  have hslots : ∀ key, slot ∈ s'.spaceTimeIds key ↔ slot ∈ s.spaceTimeIds key := by
    intro key
    simp only [mem_spaceTimeIds_iff, mem_typed_perm_iff hp]
  have hids : (s'.sections.map (·.audit.id)).Nodup :=
    ((hp.filterMap _).map _).nodup_iff.mpr hs.nodup_sectionIds
  rw [selectSections_eq_map hs.nodup_sectionIds] at hpart
  rw [selectSections_eq_map hids] at hwhole
  simp only [Lookup.Books, Snapshot.lookup, hpart, hwhole, List.mem_filter, List.mem_map,
    Section.uses, List.contains_iff_mem, beq_iff_eq]
  constructor
  · rintro ⟨_, ⟨⟨r, ⟨hr, -⟩, rfl⟩, ht⟩, hid, huses⟩
    exact ⟨s'.joined r, ⟨⟨r, ⟨(mem_typed_perm_iff hp).mpr hr, trivial⟩, rfl⟩, ht⟩, hid,
      (hslots _).mpr huses⟩
  · rintro ⟨_, ⟨⟨r, ⟨hr, -⟩, rfl⟩, ht⟩, hid, huses⟩
    exact ⟨s.joined r, ⟨⟨r, ⟨(mem_typed_perm_iff hp).mp hr, hsel r (Option.some.inj ht)⟩, rfl⟩,
      ht⟩, hid, (hslots _).mp huses⟩

/-! ### Natural keys -/

section Keys

variable (hs : s.Conforms) (hp : s'.rows.Perm s.rows) (hwhole : s'.IsWhole whole)
include hs hp hwhole

theorem subjectByCode_eq {code : String} {part : List Subject}
    (hpart : Reader.subjects.Selects s (·.codeName = code) part) :
    part.find? (·.codeName == code) = whole.subjects.find? (·.codeName == code) := by
  refine Reader.subjects.find?_eq_of_column (k := .text code) hs hp hpart hwhole.subjects
    (show [.codeName] ∈ keys .subjects by decide) nofun fun r a h ha => ?_
  obtain ⟨_, -, h⟩ := bind_eq_ok_iff.mp h
  obtain rfl := pure_eq_ok_iff.mp h
  have hcode : r.codeName = code := beq_iff_eq.mp ha
  exact ⟨congrArg Cell.text hcode, decide_eq_true hcode⟩

theorem trimesterByCode_eq {code : Int32} {part : List Trimester}
    (hpart : Reader.trimesters.Selects s (·.code = code) part) :
    part.find? (·.code == code) = whole.trimesters.find? (·.code == code) := by
  refine Reader.trimesters.find?_eq_of_column (k := .int code.toInt) hs hp hpart hwhole.trimesters
    (show [.code] ∈ keys .trimesters by decide) nofun fun r a h ha => ?_
  obtain ⟨_, -, h⟩ := bind_eq_ok_iff.mp h
  obtain ⟨_, -, h⟩ := bind_eq_ok_iff.mp h
  obtain rfl := pure_eq_ok_iff.mp h
  have hcode : r.code = code := beq_iff_eq.mp ha
  exact ⟨congrArg (fun n : Int32 => Cell.int n.toInt) hcode, decide_eq_true hcode⟩

theorem studentByUniversityId_eq {number : Int64} {part : List Student}
    (hpart : Reader.students.Selects s (·.universityId = number) part) :
    part.find? (·.universityId == number) = whole.students.find? (·.universityId == number) := by
  refine Reader.students.find?_eq_of_column (k := .int number.toInt) hs hp hpart hwhole.students
    (show [.universityId] ∈ keys .students by decide) nofun fun r a h ha => ?_
  obtain rfl := Except.ok.inj h
  have hnumber : r.universityId = number := beq_iff_eq.mp ha
  exact ⟨congrArg (fun n : Int64 => Cell.int n.toInt) hnumber, decide_eq_true hnumber⟩

theorem courseFor_eq {a b t : Uuid} {part : List Course}
    (hpart : Reader.courses.Selects s
      (fun r =>
        some r.studentId = some a && some r.subjectId = some b && some r.trimesterId = some t)
      part) :
    part.find? (fun c =>
        c.studentId == some a && c.subjectId == some b && c.trimesterId == some t) =
      whole.lookup.courseFor a b t := by
  have hread : ∀ (r : CourseRow) (c : Course), r.toCourse = .ok c →
      (c.studentId == some a && c.subjectId == some b && c.trimesterId == some t) = true →
      r.studentId = a ∧ r.subjectId = b ∧ r.trimesterId = t := by
    intro r c h hc
    obtain ⟨_, -, h⟩ := bind_eq_ok_iff.mp h
    obtain rfl := pure_eq_ok_iff.mp h
    simpa [and_assoc] using hc
  refine Reader.courses.find?_eq
    (k := fun | .studentId => .uuid a | .subjectId => .uuid b | _ => .uuid t)
    hs hp hpart hwhole.courses
    (show [.studentId, .subjectId, .trimesterId] ∈ keys .courses by decide)
    (fun r x hrx hx c hc => ?_) fun r x hrx hx => ?_
  · obtain ⟨rfl, rfl, rfl⟩ := hread r x hrx hx
    simp only [List.mem_cons, List.not_mem_nil, or_false] at hc
    rcases hc with rfl | rfl | rfl <;> exact ⟨rfl, nofun⟩
  · obtain ⟨rfl, rfl, rfl⟩ := hread r x hrx hx
    simp

omit hs in
theorem mem_spaceTimesAt_iff {e : SpaceTime} {key : SlotKey} {part : Snapshot} {other : SpaceTime}
    (hkey : e.slotKey = some key) (hpart : Reader.spaceTimes.Selects s
      (fun r => r.roomNumber = e.roomNumber && r.dayOfWeek = Named.name e.dayOfWeek &&
        some r.timeSlot = e.timeSlot) part.spaceTimes) :
    other ∈ part.lookup.spaceTimesAt key ↔ other ∈ whole.lookup.spaceTimesAt key := by
  simp only [Snapshot.lookup, List.mem_filter, hpart other, hwhole.spaceTimes other, beq_iff_eq]
  refine and_congr_left fun hother => ?_
  constructor
  · rintro ⟨r, hr, -, hread⟩
    exact ⟨r, (mem_typed_perm_iff hp).mpr hr, trivial, hread⟩
  · rintro ⟨r, hr, -, hread⟩
    refine ⟨r, (mem_typed_perm_iff hp).mp hr, ?_, hread⟩
    -- the row is of the room, the day and the slot that the candidate is of
    simp only [Reader.spaceTimes, SpaceTimeRow.toSpaceTime, bind_eq_ok_iff, pure_eq_ok_iff,
      ofName_eq_ok_iff] at hread
    obtain ⟨day, hday, _, -, rfl⟩ := hread
    obtain ⟨slot, hslot, rfl⟩ := Option.map_eq_some_iff.mp hkey
    obtain ⟨hroom, hsameDay, hsameSlot⟩ := SlotKey.mk.inj (Option.some.inj hother)
    simp only at hroom hsameDay
    simp [hroom, ← hday, hsameDay, hslot, hsameSlot]

end Keys

/-! ### Requirements -/

theorem mem_prerequisitesOf_iff {rows : List PrerequisiteRow} {part whole : Snapshot} {a : Uuid}
    {q : Prerequisite} (hp : s'.rows.Perm s.rows)
    (hpart : part.prerequisites = rows.map (·.toPrerequisite))
    (hwhole : whole.prerequisites = s'.selectPrerequisites fun _ => true)
    (hrows : ∀ r : PrerequisiteRow, r.subjectId = a → (r ∈ rows ↔ r ∈ s.prerequisites)) :
    q ∈ part.lookup.prerequisitesOf a ↔ q ∈ whole.lookup.prerequisitesOf a := by
  simp only [Lookup.prerequisitesOf, Snapshot.lookup, hpart, hwhole, selectPrerequisites,
    List.mem_filter, List.mem_map, mem_typed_iff, hp.mem_iff, and_true, decide_eq_true_eq]
  refine and_congr_left fun ha => exists_congr fun r => and_congr_left ?_
  rintro rfl
  rw [hrows r (Option.some.inj ha), mem_typed_iff]

/-- **The part that is loaded tells of all that is stored**: whether a new requirement closes a
cycle. -/
theorem closing_load_eq_none_iff {p : Prerequisite} {old : Option Entity} {snapshot : Snapshot}
    {subject required : Uuid} (h : s.load (.prerequisite p) old = .ok snapshot)
    (hrequired : p.requiredSubjectId = some required) :
    Prerequisite.closing snapshot.lookup subject required = none ↔
      ¬ s.requirements.Reaches required subject := by
  rw [Prerequisite.closing_eq_none_iff, not_iff_not]
  obtain ⟨subjects, -, h⟩ := bind_eq_ok_iff.mp h
  obtain rfl := pure_eq_ok_iff.mp h
  -- whatever starts at a subject that the required one leads to has been loaded
  refine Graph.reaches_congr fun x hx y => arrow_rows_iff fun r hr => ?_
  exact mem_rows_closure_iff.trans (and_iff_left ⟨required, by simp [hrequired], hr ▸ hx⟩)

theorem closing_whole_eq_none_iff {subject required : Uuid} (hp : s'.rows.Perm s.rows)
    (hwhole : s'.IsWhole whole) : Prerequisite.closing whole.lookup subject required = none ↔
      ¬ s.requirements.Reaches required subject := by
  rw [Prerequisite.closing_eq_none_iff, not_iff_not]
  refine Graph.reaches_congr fun x _ y => ?_
  simp only [Snapshot.lookup, hwhole.prerequisites]
  exact arrow_rows_iff fun r _ => by simp [mem_typed_perm_iff hp]

/-! ### Loading -/

theorem exists_load (hs : s.Readable) (e : Entity) (old : Option Entity) :
    ∃ part, s.load e old = .ok part := by
  have hsubjects := Reader.subjects.exists_select hs
  have htrimesters := Reader.trimesters.exists_select hs
  have hspaceTimes := Reader.spaceTimes.exists_select hs
  have hfaculties := Reader.faculties.exists_select hs
  have hcourses := Reader.courses.exists_select hs
  cases e
  case subject e =>
    obtain ⟨_, h⟩ := hsubjects (·.codeName = e.codeName)
    exact ⟨_, bind_eq_ok_iff.mpr ⟨_, h, rfl⟩⟩
  case prerequisite e =>
    obtain ⟨_, h⟩ := hsubjects
      ((s.closure (e.subjectId.toList ++ e.requiredSubjectId.toList)).met.contains ·.audit.id)
    exact ⟨_, bind_eq_ok_iff.mpr ⟨_, h, rfl⟩⟩
  case trimester e =>
    obtain ⟨_, h⟩ := htrimesters (·.code = e.code)
    exact ⟨_, bind_eq_ok_iff.mpr ⟨_, h, rfl⟩⟩
  case spaceTime e =>
    obtain ⟨_, h⟩ := hspaceTimes _
    exact ⟨_, bind_eq_ok_iff.mpr ⟨_, h, rfl⟩⟩
  case «section» e =>
    obtain ⟨_, h₁⟩ := hsubjects (some ·.audit.id = e.subjectId)
    obtain ⟨_, h₂⟩ := htrimesters (some ·.audit.id = e.trimesterId)
    obtain ⟨_, h₃⟩ := hspaceTimes (e.spaceTimeIds.contains ·.audit.id)
    obtain ⟨_, h₄⟩ := hfaculties (e.teacherIds.contains ·.audit.id)
    exact ⟨_, bind_eq_ok_iff.mpr ⟨_, h₁, bind_eq_ok_iff.mpr ⟨_, h₂, bind_eq_ok_iff.mpr ⟨_, h₃,
      bind_eq_ok_iff.mpr ⟨_, h₄, rfl⟩⟩⟩⟩⟩
  case course e =>
    obtain ⟨_, h₁⟩ := hsubjects (some ·.audit.id = e.subjectId)
    obtain ⟨_, h₂⟩ := htrimesters (some ·.audit.id = e.trimesterId)
    obtain ⟨_, h₃⟩ := hcourses fun r => some r.studentId = e.studentId &&
      some r.subjectId = e.subjectId && some r.trimesterId = e.trimesterId
    exact ⟨_, bind_eq_ok_iff.mpr ⟨_, h₁, bind_eq_ok_iff.mpr ⟨_, h₂,
      bind_eq_ok_iff.mpr ⟨_, h₃, rfl⟩⟩⟩⟩
  case notification e =>
    obtain ⟨_, h₁⟩ := htrimesters (some ·.audit.id = e.trimesterId)
    obtain ⟨_, h₂⟩ := hfaculties (some ·.audit.id = e.targetUserId)
    exact ⟨_, bind_eq_ok_iff.mpr ⟨_, h₁, bind_eq_ok_iff.mpr ⟨_, h₂, rfl⟩⟩⟩
  case student e => exact ⟨_, rfl⟩
  case faculty e => exact ⟨_, rfl⟩

section Agree

variable {old : Option Entity} {part : Snapshot} (hs : s.Conforms) (hp : s'.rows.Perm s.rows)
  (hwhole : s'.IsWhole whole)
include hs hp hwhole

theorem subject_eq {p : SubjectRow → Bool} {subjects : List Subject}
    (h : s.selectSubjects p = .ok subjects)
    (hsel : ∀ r : SubjectRow, r.audit.id = id → p r = true) :
    rowById id subjects = rowById id whole.subjects :=
  Reader.subjects.rowById_eq hs hp (Reader.subjects.selects_of_mapM h) hwhole.subjects
    fun r hid => hsel r (Option.some.inj hid)

theorem trimester_eq {p : TrimesterRow → Bool} {trimesters : List Trimester}
    (h : s.selectTrimesters p = .ok trimesters)
    (hsel : ∀ r : TrimesterRow, r.audit.id = id → p r = true) :
    rowById id trimesters = rowById id whole.trimesters :=
  Reader.trimesters.rowById_eq hs hp (Reader.trimesters.selects_of_mapM h) hwhole.trimesters
    fun r hid => hsel r (Option.some.inj hid)

theorem spaceTime_eq {p : SpaceTimeRow → Bool} {spaceTimes : List SpaceTime}
    (h : s.selectSpaceTimes p = .ok spaceTimes)
    (hsel : ∀ r : SpaceTimeRow, r.audit.id = id → p r = true) :
    rowById id spaceTimes = rowById id whole.spaceTimes :=
  Reader.spaceTimes.rowById_eq hs hp (Reader.spaceTimes.selects_of_mapM h) hwhole.spaceTimes
    fun r hid => hsel r (Option.some.inj hid)

theorem faculty_eq {p : FacultyRow → Bool} {faculties : List Faculty}
    (h : s.selectFaculties p = .ok faculties)
    (hsel : ∀ r : FacultyRow, r.audit.id = id → p r = true) :
    rowById id faculties = rowById id whole.faculties :=
  Reader.faculties.rowById_eq hs hp (Reader.faculties.selects_of_mapM h) hwhole.faculties
    fun r hid => hsel r (Option.some.inj hid)

theorem student_eq {p : StudentRow → Bool}
    (hsel : ∀ r : StudentRow, r.audit.id = id → p r = true) :
    rowById id (s.selectStudents p) = rowById id whole.students :=
  Reader.students.rowById_eq hs hp (Reader.students.selects_map (fun _ => rfl) p) hwhole.students
    fun r hid => hsel r (Option.some.inj hid)

theorem agree_of_loadPrerequisite {p : Prerequisite} (h : s.loadPrerequisite p = .ok part) :
    p.Agree part.lookup whole.lookup := by
  have hload : s.load (.prerequisite p) none = .ok part := h
  obtain ⟨subjects, hsubjects, h⟩ := bind_eq_ok_iff.mp h
  obtain rfl := pure_eq_ok_iff.mp h
  -- both ends are among what has been met
  have hmet : ∀ a ∈ p.subjectId.toList ++ p.requiredSubjectId.toList,
      a ∈ (s.closure (p.subjectId.toList ++ p.requiredSubjectId.toList)).met :=
    fun a ha => mem_met_iff.mpr ⟨a, ha, .refl⟩
  have hsubject : ∀ a ∈ p.subjectId.toList ++ p.requiredSubjectId.toList,
      (rowById a subjects).isSome = (rowById a whole.subjects).isSome := fun a ha => by
    rw [subject_eq hs hp hwhole hsubjects fun r hr => by simpa [hr] using hmet a ha]
  refine ⟨fun a ha => hsubject a (by simp_all), fun b hb => hsubject b (by simp_all),
    fun a ha q => ?_, fun a _ b hb => ?_⟩
  · exact mem_prerequisitesOf_iff hp rfl hwhole.prerequisites fun r hr =>
      mem_rows_closure_iff.trans (and_iff_left ⟨a, by simp_all, hr ▸ .refl⟩)
  · rw [closing_load_eq_none_iff hload hb, closing_whole_eq_none_iff hp hwhole]

theorem agree_of_loadSection {e : Section} (h : s.loadSection e = .ok part)
    (hsections : whole.sections = s'.selectSections fun _ => true) :
    e.Agree part.lookup whole.lookup := by
  obtain ⟨subjects, hsubjects, h⟩ := bind_eq_ok_iff.mp h
  obtain ⟨trimesters, htrimesters, h⟩ := bind_eq_ok_iff.mp h
  obtain ⟨spaceTimes, hspaceTimes, h⟩ := bind_eq_ok_iff.mp h
  obtain ⟨faculties, hfaculties, h⟩ := bind_eq_ok_iff.mp h
  obtain rfl := pure_eq_ok_iff.mp h
  refine ⟨fun id hid => ?_, fun id hid => ?_, fun id hid => ?_, fun id hid => ?_,
    fun id hid key slot => ?_⟩
  · exact congrArg _ (subject_eq hs hp hwhole hsubjects fun r hr => by simp_all)
  · exact congrArg _ (trimester_eq hs hp hwhole htrimesters fun r hr => by simp_all)
  · exact congrArg _ (spaceTime_eq hs hp hwhole hspaceTimes fun r hr => by simp_all)
  · exact faculty_eq hs hp hwhole hfaculties fun r hr => by simp_all
  · exact books_iff hs hp rfl hsections fun r hr => by simp_all

theorem agree_of_loadCourse {e : Course} {oldSection : Option Uuid}
    (h : s.loadCourse e oldSection = .ok part) : e.Agree part.lookup whole.lookup := by
  obtain ⟨subjects, hsubjects, h⟩ := bind_eq_ok_iff.mp h
  obtain ⟨trimesters, htrimesters, h⟩ := bind_eq_ok_iff.mp h
  obtain ⟨courses, hcourses, h⟩ := bind_eq_ok_iff.mp h
  obtain rfl := pure_eq_ok_iff.mp h
  refine ⟨fun id hid => ?_, fun id hid => ?_, fun id hid => ?_, fun id hid => ?_,
    fun a ha b hb t ht => ?_⟩
  · exact congrArg _ (student_eq hs hp hwhole fun r hr => by simp_all)
  · exact congrArg _ (subject_eq hs hp hwhole hsubjects fun r hr => by simp_all)
  · exact congrArg _ (trimester_eq hs hp hwhole htrimesters fun r hr => by simp_all)
  · simp only [Snapshot.lookup, hwhole.sections]
    exact sectionAt_eq hs hp fun r hr => by simp_all
  · rw [Option.mem_def.mp ha, Option.mem_def.mp hb, Option.mem_def.mp ht] at hcourses
    exact courseFor_eq hs hp hwhole (Reader.courses.selects_of_mapM hcourses)

theorem agree_of_loadNotification {e : Notification} (h : s.loadNotification e = .ok part) :
    e.Agree part.lookup whole.lookup := by
  obtain ⟨trimesters, htrimesters, h⟩ := bind_eq_ok_iff.mp h
  obtain ⟨faculties, hfaculties, h⟩ := bind_eq_ok_iff.mp h
  obtain rfl := pure_eq_ok_iff.mp h
  refine ⟨fun id hid => ?_, fun id hid => ?_, fun id hid => ?_, fun id hid => ?_⟩
  · exact congrArg _ (trimester_eq hs hp hwhole htrimesters fun r hr => by simp_all)
  · have hsame : (rowById id (s.selectSections (some ·.audit.id = e.sectionId))).map Section.bare =
        (rowById id whole.sections).map Section.bare := by
      rw [hwhole.sections]
      exact sectionAt_eq hs hp fun r hr => by simp_all
    have h := congrArg Option.isSome hsame
    rw [Option.isSome_map, Option.isSome_map] at h
    exact h
  · exact congrArg _ (student_eq hs hp hwhole fun r hr => by simp_all)
  · exact congrArg _ (faculty_eq hs hp hwhole hfaculties fun r hr => by simp_all)

/-- **The part and the whole agree on what the rules look up.** -/
theorem agree_of_load {e : Entity} (h : s.load e old = .ok part) :
    e.Agree part.lookup whole.lookup := by
  cases e
  case subject e =>
    obtain ⟨subjects, hsubjects, h⟩ := bind_eq_ok_iff.mp h
    obtain rfl := pure_eq_ok_iff.mp h
    exact subjectByCode_eq hs hp hwhole (Reader.subjects.selects_of_mapM hsubjects)
  case prerequisite e => exact agree_of_loadPrerequisite hs hp hwhole h
  case trimester e =>
    obtain ⟨trimesters, htrimesters, h⟩ := bind_eq_ok_iff.mp h
    obtain rfl := pure_eq_ok_iff.mp h
    exact trimesterByCode_eq hs hp hwhole (Reader.trimesters.selects_of_mapM htrimesters)
  case spaceTime e =>
    obtain ⟨spaceTimes, hspaceTimes, h⟩ := bind_eq_ok_iff.mp h
    obtain rfl := pure_eq_ok_iff.mp h
    intro key hkey other
    exact mem_spaceTimesAt_iff hp hwhole hkey (Reader.spaceTimes.selects_of_mapM hspaceTimes)
  case «section» e => exact agree_of_loadSection hs hp hwhole h hwhole.sections
  case course e => exact agree_of_loadCourse hs hp hwhole h
  case notification e => exact agree_of_loadNotification hs hp hwhole h
  case student e =>
    obtain rfl := Except.ok.inj h
    exact studentByUniversityId_eq hs hp hwhole (Reader.students.selects_map (fun _ => rfl) _)
  case faculty e => trivial

end Agree

/-- **A part of the store is as good as all of it**: whatever the candidate, and whatever it is to
replace, what is loaded for it and all that is stored lead to verdicts that are alike, in whatever
order the rows come. -/
theorem load_decides {s s' : Store} (hs : s.Conforms) (hr : s.Readable)
    (hp : s'.rows.Perm s.rows) (e : Entity) (now : Instant) :
    ∃ whole, s'.snapshot = .ok whole ∧
      (∃ part, s.load e none = .ok part ∧
        Verdict.Alike (e.reviewNew part.lookup now) (e.reviewNew whole.lookup now)) ∧
      ∀ old, ∃ part, s.load e (some old) = .ok part ∧
        Verdict.Alike (e.reviewRevision old part.lookup now)
          (e.reviewRevision old whole.lookup now) := by
  have hr' : s'.Readable := fun r h => hr r (hp.mem_iff.mp h)
  obtain ⟨whole, hw⟩ := exists_snapshot hr'
  have hwhole := isWhole_of_snapshot hw
  refine ⟨whole, hw, ?_, fun old => ?_⟩
  · obtain ⟨part, h⟩ := exists_load hr e none
    exact ⟨part, h, Entity.alike_reviewNew (agree_of_load hs hp hwhole h)⟩
  · obtain ⟨part, h⟩ := exists_load hr e (some old)
    exact ⟨part, h, Entity.alike_reviewRevision (agree_of_load hs hp hwhole h)⟩

namespace Sample

open Enrollment.Sample

/-- A subject and a student. -/
def rows : List Row :=
  [.subject ⟨block 1, "CSE101", "Programming", 3, "THEORY"⟩,
    .student ⟨block 2, 42, "Student", "student@university"⟩]

/-- The code is taken. -/
def candidate : Entity := .subject ⟨block 3, "CSE101", "Algorithms", 3, .theory⟩

end Sample

theorem load_decides_sample : ∃ whole, snapshot ⟨Sample.rows.reverse⟩ = .ok whole ∧
    ∃ part, load ⟨Sample.rows⟩ Sample.candidate none = .ok part ∧
      Verdict.Alike (Sample.candidate.reviewNew part.lookup .epoch)
        (Sample.candidate.reviewNew whole.lookup .epoch) := by
  have hs : Conforms ⟨Sample.rows⟩ := by decide +kernel
  have hr : Readable ⟨Sample.rows⟩ := by decide +kernel
  have hp : (Store.mk Sample.rows.reverse).rows.Perm (Store.mk Sample.rows).rows :=
    List.reverse_perm _
  obtain ⟨whole, hw, hpart, -⟩ := load_decides hs hr hp Sample.candidate .epoch
  exact ⟨whole, hw, hpart⟩

end Enrollment.Store
