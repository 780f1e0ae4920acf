import Enrollment.Audit
import Enrollment.Store.Schema

/-! # Rows

What the store keeps, a type of rows for each table. A row has what its columns hold: names of
enumerations are plain text, and what a column requires is there. A row that joins a section to
something else has an identifier of its own, which the store makes up, or which is given when the
row comes from outside.

* `cell_id`: the key of a row that carries an audit block is the identifier in the block. -/

namespace Enrollment.Store

structure SubjectRow where
  audit : Audit
  codeName : String
  name : String
  credits : Int16
  subjectType : String
deriving DecidableEq, Repr

structure TrimesterRow where
  audit : Audit
  year : Int32
  season : String
  code : Int32
  status : String
  courseSelectionStart : Option Instant
  courseSelectionEnd : Option Instant
  sectionRegistrationStart : Option Instant
  sectionRegistrationEnd : Option Instant
deriving DecidableEq, Repr

structure SpaceTimeRow where
  audit : Audit
  roomNumber : String
  dayOfWeek : String
  roomType : String
  timeSlot : Int16
deriving DecidableEq, Repr

structure StudentRow where
  audit : Audit
  universityId : Int64
  name : String
  email : String
deriving DecidableEq, Repr

structure FacultyRow where
  audit : Audit
  name : String
  email : String
  userType : String
deriving DecidableEq, Repr

structure PrerequisiteRow where
  audit : Audit
  subjectId : Uuid
  requiredSubjectId : Uuid
  minGrade : Binary32
deriving DecidableEq, Repr

structure SectionRow where
  audit : Audit
  subjectId : Uuid
  trimesterId : Uuid
  maxCapacity : Int32
  currentCapacity : Int32
deriving DecidableEq, Repr

/-- A space time that a section books, with the trimester of the section. -/
structure SectionSpaceTimeRow where
  id : Option Uuid
  sectionId : Uuid
  spaceTimeId : Uuid
  trimesterId : Uuid
  createdAt : Instant
deriving DecidableEq, Repr

/-- A teacher of a section. -/
structure SectionTeacherRow where
  id : Option Uuid
  sectionId : Uuid
  facultyId : Uuid
  createdAt : Instant
deriving DecidableEq, Repr

structure CourseRow where
  audit : Audit
  studentId : Uuid
  subjectId : Uuid
  trimesterId : Uuid
  status : String
  sectionId : Option Uuid
  grade : Option Binary32
deriving DecidableEq, Repr

structure NotificationRow where
  audit : Audit
  scope : String
  title : String
  content : String
  trimesterId : Option Uuid
  sectionId : Option Uuid
  targetUserId : Option Uuid
deriving DecidableEq, Repr

/-- A row of any table. -/
inductive Row where
  | subject (r : SubjectRow)
  | trimester (r : TrimesterRow)
  | spaceTime (r : SpaceTimeRow)
  | student (r : StudentRow)
  | faculty (r : FacultyRow)
  | prerequisite (r : PrerequisiteRow)
  | section (r : SectionRow)
  | sectionSpaceTime (r : SectionSpaceTimeRow)
  | sectionTeacher (r : SectionTeacherRow)
  | course (r : CourseRow)
  | notification (r : NotificationRow)
deriving DecidableEq, Repr

namespace Row

/-- The table of a row. -/
def table : Row → Table
  | subject _ => .subjects
  | trimester _ => .trimesters
  | spaceTime _ => .spaceTimes
  | student _ => .students
  | faculty _ => .faculties
  | prerequisite _ => .prerequisites
  | .section _ => .sections
  | sectionSpaceTime _ => .sectionSpaceTimes
  | sectionTeacher _ => .sectionTeachers
  | course _ => .courses
  | notification _ => .notifications

/-- The audit block of a row, unless it only joins two others. -/
def audit? : Row → Option Audit
  | subject r => some r.audit
  | trimester r => some r.audit
  | spaceTime r => some r.audit
  | student r => some r.audit
  | faculty r => some r.audit
  | prerequisite r => some r.audit
  | .section r => some r.audit
  | sectionSpaceTime _ => none
  | sectionTeacher _ => none
  | course r => some r.audit
  | notification r => some r.audit

/-- The identifier of a row, unless the store makes it up. -/
def id : Row → Option Uuid
  | sectionSpaceTime r => r.id
  | sectionTeacher r => r.id
  | r => r.audit?.map (·.id)

/-- The version of a row, unless it only joins two others. -/
def version (r : Row) : Option Int32 := r.audit?.map (·.version)

/-- The row of a table under an identifier. -/
def isAt (t : Table) (key : Uuid) (r : Row) : Bool := r.table = t && r.id = some key

/-! ### Cells -/

/-- The cells of an audit block except its identifier. -/
def auditCells (a : Audit) : List (Column × Cell) :=
  [(.createdAt, .time a.createdAt), (.updatedAt, .time a.updatedAt),
    (.createdBy, .text a.createdBy), (.updatedBy, .text a.updatedBy),
    (.version, .int a.version.toInt)]

/-- The cells of a row that belong to its table alone. -/
def ownCells : Row → List (Column × Cell)
  | subject r =>
    [(.codeName, .text r.codeName), (.name, .text r.name), (.credits, .int r.credits.toInt),
      (.subjectType, .text r.subjectType)]
  | trimester r =>
    [(.year, .int r.year.toInt), (.season, .text r.season), (.code, .int r.code.toInt),
      (.status, .text r.status),
      (.courseSelectionStart, .ofOption .time r.courseSelectionStart),
      (.courseSelectionEnd, .ofOption .time r.courseSelectionEnd),
      (.sectionRegistrationStart, .ofOption .time r.sectionRegistrationStart),
      (.sectionRegistrationEnd, .ofOption .time r.sectionRegistrationEnd)]
  | spaceTime r =>
    [(.roomNumber, .text r.roomNumber), (.dayOfWeek, .text r.dayOfWeek),
      (.roomType, .text r.roomType), (.timeSlot, .int r.timeSlot.toInt)]
  | student r =>
    [(.universityId, .int r.universityId.toInt), (.name, .text r.name), (.email, .text r.email)]
  | faculty r =>
    [(.name, .text r.name), (.email, .text r.email), (.userType, .text r.userType)]
  | prerequisite r =>
    [(.subjectId, .uuid r.subjectId), (.requiredSubjectId, .uuid r.requiredSubjectId),
      (.minGrade, .real r.minGrade)]
  | .section r =>
    [(.subjectId, .uuid r.subjectId), (.trimesterId, .uuid r.trimesterId),
      (.maxCapacity, .int r.maxCapacity.toInt),
      (.currentCapacity, .int r.currentCapacity.toInt)]
  | sectionSpaceTime r =>
    [(.sectionId, .uuid r.sectionId), (.spaceTimeId, .uuid r.spaceTimeId),
      (.trimesterId, .uuid r.trimesterId), (.createdAt, .time r.createdAt)]
  | sectionTeacher r =>
    [(.sectionId, .uuid r.sectionId), (.facultyId, .uuid r.facultyId),
      (.createdAt, .time r.createdAt)]
  | course r =>
    [(.studentId, .uuid r.studentId), (.subjectId, .uuid r.subjectId),
      (.trimesterId, .uuid r.trimesterId), (.status, .text r.status),
      (.sectionId, .ofOption .uuid r.sectionId), (.grade, .ofOption .real r.grade)]
  | notification r =>
    [(.scope, .text r.scope), (.title, .text r.title), (.content, .text r.content),
      (.trimesterId, .ofOption .uuid r.trimesterId), (.sectionId, .ofOption .uuid r.sectionId),
      (.targetUserId, .ofOption .uuid r.targetUserId)]

/-- The cells of a row, in the order of the columns of its table. -/
def cells (r : Row) : List (Column × Cell) :=
  (.id, .ofOption .uuid r.id) :: r.ownCells ++ (r.audit?.map auditCells).getD []

/-- The cell of a row in a column, null if its table has no such column. -/
def cell (r : Row) (c : Column) : Cell := ((r.cells.find? (·.1 = c)).map (·.2)).getD .null

theorem cell_id (r : Row) : r.cell .id = .ofOption .uuid r.id := rfl

/-- The row with no sign on a zero, since a store keeps none. -/
def settled : Row → Row
  | prerequisite r => prerequisite { r with minGrade := r.minGrade.unsignedZero }
  | course r => course { r with grade := r.grade.map Binary32.unsignedZero }
  | r => r

theorem table_settled (r : Row) : r.settled.table = r.table := by cases r <;> rfl

theorem audit?_settled (r : Row) : r.settled.audit? = r.audit? := by cases r <;> rfl

theorem id_settled (r : Row) : r.settled.id = r.id := by cases r <;> rfl

end Row

end Enrollment.Store
