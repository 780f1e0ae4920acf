import Enrollment.Entity
import Enrollment.Store.Row

/-! # Rows and what they stand for

Each row stands for an entity, a section's together with the rows that join it to its space times
and its teachers. A row whose text is no name of the enumeration stands for nothing, and an entity
that lacks what a column requires has no row.

* `ofName_name`: a name that was written is read as the value it was written for. -/

namespace Enrollment.Store

/-- The table of a kind. -/
def tableOf : Kind → Table
  | .subject => .subjects
  | .prerequisite => .prerequisites
  | .trimester => .trimesters
  | .section => .sections
  | .spaceTime => .spaceTimes
  | .course => .courses
  | .notification => .notifications
  | .student => .students
  | .faculty => .faculties

/-- Why a row and an entity do not correspond. -/
inductive RowFault where
  /-- The text in a column is no name of its enumeration. -/
  | unknown (column : Column) (value : String)
  /-- What a column requires is missing. -/
  | unset (column : Column)
deriving DecidableEq, Repr

/-- The value that a name in a column stands for. -/
def ofName {α : Type} [Named α] (column : Column) (value : String) : Except RowFault α :=
  match Named.ofName? value with
  | some a => .ok a
  | none => .error (.unknown column value)

theorem ofName_name {α : Type} [Named α] (column : Column) (a : α) :
    ofName column (Named.name a) = .ok a := by simp [ofName, Named.ofName?_name]

theorem ofName_eq_ok_iff {α : Type} [Named α] {column : Column} {value : String} {a : α} :
    ofName column value = .ok a ↔ Named.name a = value := by
  rw [← Named.ofName?_eq_some_iff]
  unfold ofName
  split <;> simp_all

/-- The value that a column requires. -/
def required {α : Type} (column : Column) (value : Option α) : Except RowFault α :=
  match value with
  | some a => .ok a
  | none => .error (.unset column)

theorem required_eq_ok_iff {α : Type} {column : Column} {value : Option α} {a : α} :
    required column value = .ok a ↔ value = some a := by
  cases value <;> simp [required]

/-! ### From rows -/

def SubjectRow.toSubject (r : SubjectRow) : Except RowFault Subject := do
  let subjectType ← ofName .subjectType r.subjectType
  return ⟨r.audit, r.codeName, r.name, r.credits, subjectType⟩

def PrerequisiteRow.toPrerequisite (r : PrerequisiteRow) : Prerequisite :=
  ⟨r.audit, some r.subjectId, some r.requiredSubjectId, r.minGrade⟩

def TrimesterRow.toTrimester (r : TrimesterRow) : Except RowFault Trimester := do
  let season ← ofName .season r.season
  let status ← ofName .status r.status
  return ⟨r.audit, r.year, season, r.code, status,
    ⟨r.courseSelectionStart, r.courseSelectionEnd, r.sectionRegistrationStart,
      r.sectionRegistrationEnd⟩⟩

def SpaceTimeRow.toSpaceTime (r : SpaceTimeRow) : Except RowFault SpaceTime := do
  let dayOfWeek ← ofName .dayOfWeek r.dayOfWeek
  let roomType ← ofName .roomType r.roomType
  return ⟨r.audit, r.roomNumber, dayOfWeek, roomType, some r.timeSlot⟩

/-- A section row with the space times and the teachers that it is joined to. -/
def SectionRow.toSection (r : SectionRow) (spaceTimeIds teacherIds : List Uuid) : Section :=
  ⟨r.audit, some r.subjectId, some r.trimesterId, r.maxCapacity, r.currentCapacity, spaceTimeIds,
    teacherIds⟩

def CourseRow.toCourse (r : CourseRow) : Except RowFault Course := do
  let status ← ofName .status r.status
  return ⟨r.audit, some r.studentId, some r.subjectId, some r.trimesterId, status, r.sectionId,
    r.grade⟩

def NotificationRow.toNotification (r : NotificationRow) : Except RowFault Notification := do
  let scope ← ofName .scope r.scope
  return ⟨r.audit, scope, r.title, r.content, r.trimesterId, r.sectionId, r.targetUserId⟩

def StudentRow.toStudent (r : StudentRow) : Student := ⟨r.audit, r.universityId, r.name, r.email⟩

def FacultyRow.toFaculty (r : FacultyRow) : Except RowFault Faculty := do
  let userType ← ofName .userType r.userType
  return ⟨r.audit, r.name, r.email, userType⟩

/-- The entity that a row stands for, given the space times and the teachers that it is joined to if
it is a section's; a row that only joins two others stands for none. -/
def Row.toEntity? (r : Row) (spaceTimeIds teacherIds : List Uuid) :
    Option (Except RowFault Entity) :=
  match r with
  | .subject r => some (r.toSubject.map .subject)
  | .prerequisite r => some (.ok (.prerequisite r.toPrerequisite))
  | .trimester r => some (r.toTrimester.map .trimester)
  | .section r => some (.ok (.section (r.toSection spaceTimeIds teacherIds)))
  | .spaceTime r => some (r.toSpaceTime.map .spaceTime)
  | .course r => some (r.toCourse.map .course)
  | .notification r => some (r.toNotification.map .notification)
  | .student r => some (.ok (.student r.toStudent))
  | .faculty r => some (r.toFaculty.map .faculty)
  | .sectionSpaceTime _ | .sectionTeacher _ => none

/-! ### To rows -/

def SubjectRow.of (e : Subject) : SubjectRow :=
  ⟨e.audit, e.codeName, e.name, e.credits, Named.name e.subjectType⟩

def PrerequisiteRow.of (e : Prerequisite) : Except RowFault PrerequisiteRow := do
  let subjectId ← required .subjectId e.subjectId
  let requiredSubjectId ← required .requiredSubjectId e.requiredSubjectId
  return ⟨e.audit, subjectId, requiredSubjectId, e.minGrade⟩

def TrimesterRow.of (e : Trimester) : TrimesterRow :=
  ⟨e.audit, e.year, Named.name e.season, e.code, Named.name e.status,
    e.calendar.courseSelectionStart, e.calendar.courseSelectionEnd,
    e.calendar.sectionRegistrationStart, e.calendar.sectionRegistrationEnd⟩

def SpaceTimeRow.of (e : SpaceTime) : Except RowFault SpaceTimeRow := do
  let timeSlot ← required .timeSlot e.timeSlot
  return ⟨e.audit, e.roomNumber, Named.name e.dayOfWeek, Named.name e.roomType, timeSlot⟩

/-- The row of a section, which does not have its space times and its teachers. -/
def SectionRow.of (e : Section) : Except RowFault SectionRow := do
  let subjectId ← required .subjectId e.subjectId
  let trimesterId ← required .trimesterId e.trimesterId
  return ⟨e.audit, subjectId, trimesterId, e.maxCapacity, e.currentCapacity⟩

def CourseRow.of (e : Course) : Except RowFault CourseRow := do
  let studentId ← required .studentId e.studentId
  let subjectId ← required .subjectId e.subjectId
  let trimesterId ← required .trimesterId e.trimesterId
  return ⟨e.audit, studentId, subjectId, trimesterId, Named.name e.status, e.sectionId, e.grade⟩

def NotificationRow.of (e : Notification) : NotificationRow :=
  ⟨e.audit, Named.name e.scope, e.title, e.content, e.trimesterId, e.sectionId, e.targetUserId⟩

def StudentRow.of (e : Student) : StudentRow := ⟨e.audit, e.universityId, e.name, e.email⟩

def FacultyRow.of (e : Faculty) : FacultyRow := ⟨e.audit, e.name, e.email, Named.name e.userType⟩

/-- The row of an entity. -/
def Row.ofEntity : Entity → Except RowFault Row
  | .subject e => .ok (.subject (.of e))
  | .prerequisite e => (PrerequisiteRow.of e).map .prerequisite
  | .trimester e => .ok (.trimester (.of e))
  | .section e => (SectionRow.of e).map .section
  | .spaceTime e => (SpaceTimeRow.of e).map .spaceTime
  | .course e => (CourseRow.of e).map .course
  | .notification e => .ok (.notification (.of e))
  | .student e => .ok (.student (.of e))
  | .faculty e => .ok (.faculty (.of e))

end Enrollment.Store
