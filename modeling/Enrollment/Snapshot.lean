import Enrollment.Lookup

/-! # Snapshots

A snapshot holds stored things in memory, at most one of an identifier in each kind as long as they
were all put there by `put`, and answers a `Lookup` with the first that fits.

* `rowById_putRow`: what was put under an identifier is found under it, and nothing else changes. -/

namespace Enrollment

/-- A row with the identifier, if the list has one. -/
def rowById {α : Type} [Audited α] (id : Uuid) (rows : List α) : Option α :=
  rows.find? fun a => Audited.id a == id

theorem mem_of_rowById {α : Type} [Audited α] {id : Uuid} {rows : List α} {a : α}
    (h : rowById id rows = some a) : a ∈ rows ∧ Audited.id a = id :=
  ⟨List.mem_of_find?_eq_some h, by simpa using List.find?_some h⟩

/-- The rows with one more, or with one in the place of that of the same identifier. -/
def putRow {α : Type} [Audited α] (a : α) : List α → List α
  | [] => [a]
  | b :: rows => if Audited.id b = Audited.id a then a :: rows else b :: putRow a rows

theorem rowById_putRow {α : Type} [Audited α] (a : α) (rows : List α) (id : Uuid) :
    rowById id (putRow a rows) = if Audited.id a = id then some a else rowById id rows := by
  induction rows with
  | nil => simp [putRow, rowById, List.find?_cons]; split <;> simp_all
  | cons b rows ih =>
    unfold putRow
    split <;> rename_i hb
    · by_cases ha : Audited.id a = id
      · simp [rowById, ha]
      · simp [rowById, ha, hb]
    · by_cases hbi : Audited.id b = id
      · have ha : ¬ Audited.id a = id := fun h => hb (by rw [hbi, h])
        simp [rowById, hbi, ha]
      · simpa [rowById, hbi] using ih

theorem mem_putRow {α : Type} [Audited α] {a b : α} {rows : List α} (h : b ∈ putRow a rows) :
    b = a ∨ b ∈ rows := by
  induction rows with
  | nil => exact Or.inl (by simpa [putRow] using h)
  | cons c rows ih =>
    unfold putRow at h
    split at h
    · rcases List.mem_cons.mp h with rfl | h
      · exact Or.inl rfl
      · exact Or.inr (List.mem_cons_of_mem _ h)
    · rcases List.mem_cons.mp h with rfl | h
      · exact Or.inr List.mem_cons_self
      · exact (ih h).imp id (List.mem_cons_of_mem _)

/-- Stored things in memory. -/
structure Snapshot where
  subjects : List Subject := []
  prerequisites : List Prerequisite := []
  trimesters : List Trimester := []
  sections : List Section := []
  spaceTimes : List SpaceTime := []
  courses : List Course := []
  notifications : List Notification := []
  students : List Student := []
  faculties : List Faculty := []
deriving DecidableEq, Repr

namespace Snapshot

/-- Nothing is stored. -/
def empty : Snapshot := {}

/-- The snapshot with one more thing, in the place of that of its kind and identifier if there is
one. -/
def put (s : Snapshot) : Entity → Snapshot
  | .subject e => { s with subjects := putRow e s.subjects }
  | .prerequisite e => { s with prerequisites := putRow e s.prerequisites }
  | .trimester e => { s with trimesters := putRow e s.trimesters }
  | .section e => { s with sections := putRow e s.sections }
  | .spaceTime e => { s with spaceTimes := putRow e s.spaceTimes }
  | .course e => { s with courses := putRow e s.courses }
  | .notification e => { s with notifications := putRow e s.notifications }
  | .student e => { s with students := putRow e s.students }
  | .faculty e => { s with faculties := putRow e s.faculties }

/-- The snapshot with each of a list of things put into it. -/
def putAll (s : Snapshot) (es : List Entity) : Snapshot := es.foldl put s

/-- How many things there are of all kinds. -/
def size (s : Snapshot) : Nat :=
  s.subjects.length + s.prerequisites.length + s.trimesters.length + s.sections.length +
    s.spaceTimes.length + s.courses.length + s.notifications.length + s.students.length +
    s.faculties.length

/-- The things of a kind. -/
def entities (s : Snapshot) : Kind → List Entity
  | .subject => s.subjects.map .subject
  | .prerequisite => s.prerequisites.map .prerequisite
  | .trimester => s.trimesters.map .trimester
  | .section => s.sections.map .section
  | .spaceTime => s.spaceTimes.map .spaceTime
  | .course => s.courses.map .course
  | .notification => s.notifications.map .notification
  | .student => s.students.map .student
  | .faculty => s.faculties.map .faculty

/-- The answers of a snapshot. -/
def lookup (s : Snapshot) : Lookup where
  subject id := rowById id s.subjects
  subjectByCode code := s.subjects.find? (·.codeName == code)
  prerequisites := s.prerequisites
  trimester id := rowById id s.trimesters
  trimesterByCode code := s.trimesters.find? (·.code == code)
  sectionAt id := rowById id s.sections
  sectionsInTrimester id := s.sections.filter (·.trimesterId == some id)
  spaceTime id := rowById id s.spaceTimes
  spaceTimesAt key := s.spaceTimes.filter (·.slotKey == some key)
  courseFor student subject trimester := s.courses.find? fun c =>
    c.studentId == some student && c.subjectId == some subject && c.trimesterId == some trimester
  student id := rowById id s.students
  studentByUniversityId number := s.students.find? (·.universityId == number)
  faculty id := rowById id s.faculties

end Snapshot

end Enrollment
