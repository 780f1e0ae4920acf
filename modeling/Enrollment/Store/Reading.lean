import Enrollment.Prerequisite.Graph
import Enrollment.Snapshot
import Enrollment.Store.Basic
import Enrollment.Store.Listing

/-! # Reading the store

Rows are read as what they stand for: one entity of a kind and an identifier, or what the rules for
one candidate may look up, as a snapshot. A row that stands for nothing spoils whatever has to read
it.

Sections are read together: the junction rows of all of them are listed under the sections, and each
section takes its own list away.

* `mem_spaceTimeIds_iff`, `mem_teacherIds_iff`: a section is joined to what its own junction rows
  name, and to nothing else.
* `selectSections_eq_map`: if no two sections have one identifier, each gets all that it is joined
  to.
* `closeFrom` follows the prerequisites of some subjects level by level, and ends because each level
  but the last meets subjects that had not been seen. -/

namespace Enrollment.Store

/-! ### Sections with what they are joined to -/

/-- The space times that a section is joined to. -/
def spaceTimeIds (s : Store) (key : Uuid) : List Uuid :=
  (s.sectionSpaceTimes.filter (·.sectionId = key)).map (·.spaceTimeId)

/-- The teachers that a section is joined to. -/
def teacherIds (s : Store) (key : Uuid) : List Uuid :=
  (s.sectionTeachers.filter (·.sectionId = key)).map (·.facultyId)

theorem mem_spaceTimeIds_iff {s : Store} {key id : Uuid} : id ∈ s.spaceTimeIds key ↔
    ∃ r ∈ s.sectionSpaceTimes, r.sectionId = key ∧ r.spaceTimeId = id := by
  simp [spaceTimeIds, and_assoc]

theorem mem_teacherIds_iff {s : Store} {key id : Uuid} : id ∈ s.teacherIds key ↔
    ∃ r ∈ s.sectionTeachers, r.sectionId = key ∧ r.facultyId = id := by
  simp [teacherIds, and_assoc]

/-- The section of a row. -/
def joined (s : Store) (r : SectionRow) : Section :=
  r.toSection (s.spaceTimeIds r.audit.id) (s.teacherIds r.audit.id)

/-! ### Reading sections together -/

/-- The space times that some sections are joined to, listed under the sections. -/
def listSpaceTimes (s : Store) (keys : List Uuid) : Listing :=
  .ofKeys keys (s.sectionSpaceTimes.map fun r => (r.sectionId, r.spaceTimeId))

/-- The teachers that some sections are joined to, listed under the sections. -/
def listTeachers (s : Store) (keys : List Uuid) : Listing :=
  .ofKeys keys (s.sectionTeachers.map fun r => (r.sectionId, r.facultyId))

theorem under_listSpaceTimes (s : Store) {keys : List Uuid} {key : Uuid} (h : key ∈ keys) :
    (s.listSpaceTimes keys).under key = s.spaceTimeIds key :=
  Listing.under_ofKeys_map h s.sectionSpaceTimes (·.sectionId) (·.spaceTimeId)

theorem under_listTeachers (s : Store) {keys : List Uuid} {key : Uuid} (h : key ∈ keys) :
    (s.listTeachers keys).under key = s.teacherIds key :=
  Listing.under_ofKeys_map h s.sectionTeachers (·.sectionId) (·.facultyId)

/-- The sections of some rows. Each takes away what is listed under it. -/
def assemble (spaceTimes teachers : Listing) : List SectionRow → List Section
  | [] => []
  | r :: rows =>
    r.toSection (spaceTimes.under r.audit.id) (teachers.under r.audit.id) ::
      assemble (spaceTimes.without r.audit.id) (teachers.without r.audit.id) rows

theorem assemble_eq_map {spaceTimes teachers : Listing} {rows : List SectionRow}
    (h : (rows.map (·.audit.id)).Nodup) : assemble spaceTimes teachers rows =
      rows.map fun r => r.toSection (spaceTimes.under r.audit.id) (teachers.under r.audit.id) := by
  induction rows generalizing spaceTimes teachers with
  | nil => rfl
  | cons r rows ih =>
    obtain ⟨hr, hrows⟩ := List.nodup_cons.mp h
    rw [assemble, ih hrows, List.map_cons]
    refine congrArg _ (List.map_congr_left fun x hx => ?_)
    have hne : x.audit.id ≠ r.audit.id :=
      fun hid => hr (List.mem_map.mpr ⟨x, hx, hid⟩)
    rw [Listing.under_without, Listing.under_without, if_neg hne, if_neg hne]

/-! ### Selecting -/

/-- The subjects of the rows that are selected. -/
def selectSubjects (s : Store) (p : SubjectRow → Bool) : Except RowFault (List Subject) :=
  (s.subjects.filter p).mapM (·.toSubject)

/-- The prerequisites of the rows that are selected. -/
def selectPrerequisites (s : Store) (p : PrerequisiteRow → Bool) : List Prerequisite :=
  (s.prerequisites.filter p).map (·.toPrerequisite)

/-- The trimesters of the rows that are selected. -/
def selectTrimesters (s : Store) (p : TrimesterRow → Bool) : Except RowFault (List Trimester) :=
  (s.trimesters.filter p).mapM (·.toTrimester)

/-- The space times of the rows that are selected. -/
def selectSpaceTimes (s : Store) (p : SpaceTimeRow → Bool) : Except RowFault (List SpaceTime) :=
  (s.spaceTimes.filter p).mapM (·.toSpaceTime)

/-- The sections of the rows that are selected. -/
def selectSections (s : Store) (p : SectionRow → Bool) : List Section :=
  let rows := s.sections.filter p
  let keys := rows.map (·.audit.id)
  assemble (s.listSpaceTimes keys) (s.listTeachers keys) rows

/-- **Each section gets all that it is joined to**, if no two sections have one identifier. -/
theorem selectSections_eq_map {s : Store} (h : (s.sections.map (·.audit.id)).Nodup)
    (p : SectionRow → Bool) : s.selectSections p = (s.sections.filter p).map s.joined := by
  rw [selectSections, assemble_eq_map (h.sublist (List.filter_sublist.map _))]
  refine List.map_congr_left fun r hr => ?_
  have hkey := List.mem_map_of_mem (f := fun r : SectionRow => r.audit.id) hr
  rw [under_listSpaceTimes s hkey, under_listTeachers s hkey, joined]

/-- Of two rows under one identifier, the first leaves nothing for the second. -/
example :
    let r : SectionRow := ⟨.fresh ⟨1⟩ "registrar" .epoch, ⟨2⟩, ⟨3⟩, 30, 0⟩
    let s : Store := ⟨[.section r, .section r, .sectionSpaceTime ⟨none, ⟨1⟩, ⟨4⟩, ⟨3⟩, .epoch⟩]⟩
    (s.selectSections fun _ => true).map (·.spaceTimeIds) = [[⟨4⟩], []] := by
  decide

/-- The first of the rows takes away all that it is joined to, whatever rows come after it. -/
theorem head?_selectSections (s : Store) (p : SectionRow → Bool) :
    (s.selectSections p).head? = (s.sections.filter p).head?.map s.joined := by
  unfold selectSections
  cases s.sections.filter p with
  | nil => rfl
  | cons r rows =>
    have hkey : r.audit.id ∈ (r :: rows).map (·.audit.id) := List.mem_cons_self
    simp only [assemble, List.head?_cons, under_listSpaceTimes s hkey,
      under_listTeachers s hkey, Option.map_some, joined]

/-- The courses of the rows that are selected. -/
def selectCourses (s : Store) (p : CourseRow → Bool) : Except RowFault (List Course) :=
  (s.courses.filter p).mapM (·.toCourse)

/-- The notifications of the rows that are selected. -/
def selectNotifications (s : Store) (p : NotificationRow → Bool) :
    Except RowFault (List Notification) :=
  (s.notifications.filter p).mapM (·.toNotification)

/-- The students of the rows that are selected. -/
def selectStudents (s : Store) (p : StudentRow → Bool) : List Student :=
  (s.students.filter p).map (·.toStudent)

/-- The faculty of the rows that are selected. -/
def selectFaculties (s : Store) (p : FacultyRow → Bool) : Except RowFault (List Faculty) :=
  (s.faculties.filter p).mapM (·.toFaculty)

/-! ### Finding one entity -/

/-- The section under an identifier. -/
def findSection (s : Store) (key : Uuid) : Option Section :=
  (s.selectSections (·.audit.id = key)).head?

/-- The entity of a kind under an identifier. -/
def find (s : Store) (kind : Kind) (key : Uuid) : Except RowFault (Option Entity) :=
  match kind with
  | .subject => (s.selectSubjects (·.audit.id = key)).map fun es => es.head?.map .subject
  | .prerequisite =>
    .ok ((s.selectPrerequisites (·.audit.id = key)).head?.map .prerequisite)
  | .trimester => (s.selectTrimesters (·.audit.id = key)).map fun es => es.head?.map .trimester
  | .section => .ok ((s.findSection key).map .section)
  | .spaceTime => (s.selectSpaceTimes (·.audit.id = key)).map fun es => es.head?.map .spaceTime
  | .course => (s.selectCourses (·.audit.id = key)).map fun es => es.head?.map .course
  | .notification =>
    (s.selectNotifications (·.audit.id = key)).map fun es => es.head?.map .notification
  | .student => .ok ((s.selectStudents (·.audit.id = key)).head?.map .student)
  | .faculty => (s.selectFaculties (·.audit.id = key)).map fun es => es.head?.map .faculty

/-! ### Loading what rules may look up -/

/-- The arrows of the stored prerequisites. -/
def requirements (s : Store) : Graph :=
  ⟨s.prerequisites.map fun r => (r.subjectId, r.requiredSubjectId)⟩

/-- Rows of prerequisites, and the subjects that are met on the way to them. -/
structure Closure where
  rows : List PrerequisiteRow
  met : List Uuid
deriving DecidableEq, Repr

/-- Once a level has led to new subjects, fewer requirements lead to unseen ones. -/
theorem unseen_lt_of_newcomers {s : Store} {seen next : List Uuid} {a : Uuid}
    {p : PrerequisiteRow → Bool}
    (h : Graph.newcomers seen ((s.prerequisites.filter p).map (·.requiredSubjectId)) = a :: next) :
    s.requirements.unseen (a :: next ++ seen) < s.requirements.unseen seen := by
  have hle : s.requirements.unseen (a :: next ++ seen) + (a :: next).length ≤
      s.requirements.unseen seen := by
    rw [← h]
    refine Graph.unseen_newcomers_le fun b hb => ?_
    obtain ⟨r, hr, rfl⟩ := List.mem_map.mp hb
    exact ⟨_, List.mem_map_of_mem (List.mem_filter.mp hr).1, rfl⟩
  rw [List.length_cons] at hle
  omega

/-- The prerequisites of the subjects on a level and, level by level, of those that they lead to for
the first time. -/
def closeFrom (s : Store) (seen level : List Uuid) : Closure :=
  let rows := s.prerequisites.filter (level.contains ·.subjectId)
  match h : Graph.newcomers seen (rows.map (·.requiredSubjectId)) with
  | [] => ⟨rows, seen⟩
  | a :: next =>
    have := unseen_lt_of_newcomers h
    let rest := s.closeFrom (a :: next ++ seen) (a :: next)
    ⟨rows ++ rest.rows, rest.met⟩
termination_by s.requirements.unseen seen

/-- All prerequisites that stored ones lead to from some subjects, level by level. -/
def closure (s : Store) (roots : List Uuid) : Closure :=
  s.closeFrom (Graph.newcomers [] roots) roots

/-- What the rules for a subject look up: those of its code. -/
def loadSubject (s : Store) (e : Subject) : Except RowFault Snapshot := do
  let subjects ← s.selectSubjects (·.codeName = e.codeName)
  return { subjects }

/-- What the rules for a prerequisite look up: all that its ends require, step by step. -/
def loadPrerequisite (s : Store) (e : Prerequisite) : Except RowFault Snapshot := do
  let closure := s.closure (e.subjectId.toList ++ e.requiredSubjectId.toList)
  let subjects ← s.selectSubjects (closure.met.contains ·.audit.id)
  return { subjects, prerequisites := closure.rows.map (·.toPrerequisite) }

/-- What the rules for a trimester look up: those of its code. -/
def loadTrimester (s : Store) (e : Trimester) : Except RowFault Snapshot := do
  let trimesters ← s.selectTrimesters (·.code = e.code)
  return { trimesters }

/-- What the rules for a space time look up: those in its room, on its day and in its slot. -/
def loadSpaceTime (s : Store) (e : SpaceTime) : Except RowFault Snapshot := do
  let spaceTimes ← s.selectSpaceTimes fun r =>
    r.roomNumber = e.roomNumber && r.dayOfWeek = Named.name e.dayOfWeek &&
      some r.timeSlot = e.timeSlot
  return { spaceTimes }

/-- What the rules for a section look up: all it refers to, and the sections of its trimester. -/
def loadSection (s : Store) (e : Section) : Except RowFault Snapshot := do
  let subjects ← s.selectSubjects (some ·.audit.id = e.subjectId)
  let trimesters ← s.selectTrimesters (some ·.audit.id = e.trimesterId)
  let spaceTimes ← s.selectSpaceTimes (e.spaceTimeIds.contains ·.audit.id)
  let faculties ← s.selectFaculties (e.teacherIds.contains ·.audit.id)
  let sections := s.selectSections (some ·.trimesterId = e.trimesterId)
  return { subjects, trimesters, spaceTimes, faculties, sections }

/-- What the rules for a course look up: all it refers to, the section that it had before, and the
course of its student in its subject in its trimester. -/
def loadCourse (s : Store) (e : Course) (oldSection : Option Uuid) : Except RowFault Snapshot := do
  let students := s.selectStudents (some ·.audit.id = e.studentId)
  let subjects ← s.selectSubjects (some ·.audit.id = e.subjectId)
  let trimesters ← s.selectTrimesters (some ·.audit.id = e.trimesterId)
  let sections := s.selectSections fun r =>
    some r.audit.id = e.sectionId || some r.audit.id = oldSection
  let courses ← s.selectCourses fun r =>
    some r.studentId = e.studentId && some r.subjectId = e.subjectId &&
      some r.trimesterId = e.trimesterId
  return { students, subjects, trimesters, sections, courses }

/-- What the rules for a notification look up: all it refers to. A user is a student or one of the
faculty. -/
def loadNotification (s : Store) (e : Notification) : Except RowFault Snapshot := do
  let trimesters ← s.selectTrimesters (some ·.audit.id = e.trimesterId)
  let sections := s.selectSections (some ·.audit.id = e.sectionId)
  let students := s.selectStudents (some ·.audit.id = e.targetUserId)
  let faculties ← s.selectFaculties (some ·.audit.id = e.targetUserId)
  return { trimesters, sections, students, faculties }

/-- What the rules for a candidate look up, given the entity that it replaces. -/
def load (s : Store) (e : Entity) (old : Option Entity) : Except RowFault Snapshot :=
  match e with
  | .subject e => s.loadSubject e
  | .prerequisite e => s.loadPrerequisite e
  | .trimester e => s.loadTrimester e
  | .spaceTime e => s.loadSpaceTime e
  | .section e => s.loadSection e
  | .course e =>
    s.loadCourse e (match old with | some (.course o) => o.sectionId | _ => none)
  | .notification e => s.loadNotification e
  | .student e => .ok { students := s.selectStudents (·.universityId = e.universityId) }
  | .faculty _ => .ok {}

end Enrollment.Store
