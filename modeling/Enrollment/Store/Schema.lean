import Enrollment.Binary32
import Enrollment.Named
import Enrollment.Time.Instant
import Enrollment.Uuid

/-! # The schema of the store

Tables, columns, conditions on single values, references from table to table, and indexes, as data.
A schema is a list of tables and a list of indexes. -/

namespace Enrollment.Store

/-- The tables, two of which join a section to its space times and its teachers. -/
inductive Table where
  | subjects
  | trimesters
  | spaceTimes
  | students
  | faculties
  | prerequisites
  | sections
  | sectionSpaceTimes
  | sectionTeachers
  | courses
  | notifications
deriving DecidableEq, Repr

instance : Named Table where
  all := [.subjects, .trimesters, .spaceTimes, .students, .faculties, .prerequisites, .sections,
    .sectionSpaceTimes, .sectionTeachers, .courses, .notifications]
  name
    | .subjects => "subjects"
    | .trimesters => "trimesters"
    | .spaceTimes => "space_times"
    | .students => "students"
    | .faculties => "faculties"
    | .prerequisites => "prerequisites"
    | .sections => "sections"
    | .sectionSpaceTimes => "section_space_times"
    | .sectionTeachers => "section_teachers"
    | .courses => "courses"
    | .notifications => "notifications"

/-- The columns of all tables. -/
inductive Column where
  | id
  | createdAt
  | updatedAt
  | createdBy
  | updatedBy
  | version
  | codeName
  | name
  | credits
  | subjectType
  | subjectId
  | requiredSubjectId
  | minGrade
  | year
  | season
  | code
  | status
  | courseSelectionStart
  | courseSelectionEnd
  | sectionRegistrationStart
  | sectionRegistrationEnd
  | roomNumber
  | dayOfWeek
  | roomType
  | timeSlot
  | trimesterId
  | maxCapacity
  | currentCapacity
  | sectionId
  | spaceTimeId
  | facultyId
  | studentId
  | grade
  | scope
  | title
  | content
  | targetUserId
  | universityId
  | email
  | userType
deriving DecidableEq, Repr

/-- The name of a column. -/
def Column.text : Column → String
  | id => "id"
  | createdAt => "created_at"
  | updatedAt => "updated_at"
  | createdBy => "created_by"
  | updatedBy => "updated_by"
  | version => "version"
  | codeName => "code_name"
  | name => "name"
  | credits => "credits"
  | subjectType => "subject_type"
  | subjectId => "subject_id"
  | requiredSubjectId => "required_subject_id"
  | minGrade => "min_grade"
  | year => "year"
  | season => "season"
  | code => "code"
  | status => "status"
  | courseSelectionStart => "course_selection_start"
  | courseSelectionEnd => "course_selection_end"
  | sectionRegistrationStart => "section_registration_start"
  | sectionRegistrationEnd => "section_registration_end"
  | roomNumber => "room_number"
  | dayOfWeek => "day_of_week"
  | roomType => "room_type"
  | timeSlot => "time_slot"
  | trimesterId => "trimester_id"
  | maxCapacity => "max_capacity"
  | currentCapacity => "current_capacity"
  | sectionId => "section_id"
  | spaceTimeId => "space_time_id"
  | facultyId => "faculty_id"
  | studentId => "student_id"
  | grade => "grade"
  | scope => "scope"
  | title => "title"
  | content => "content"
  | targetUserId => "target_user_id"
  | universityId => "university_id"
  | email => "email"
  | userType => "user_type"

/-- A value in a row. -/
inductive Cell where
  | null
  | uuid (id : Uuid)
  | text (s : String)
  | int (n : Int)
  | real (x : Binary32)
  | time (t : Instant)
deriving DecidableEq, Repr

/-- The value that is there, or null. -/
def Cell.ofOption {α : Type} (cell : α → Cell) : Option α → Cell
  | some a => cell a
  | none => .null

/-- The types of columns. -/
inductive ColumnType where
  | uuid
  | time
  | varchar (most : Option Nat)
  | longText
  | int16
  | int32
  | int64
  | real
deriving DecidableEq, Repr

/-- The store's name for a type. -/
def ColumnType.text : ColumnType → String
  | uuid => "uuid_text"
  | time => "timestamp_with_timezone_text"
  | varchar none => "varchar"
  | varchar (some most) => "varchar(" ++ toString most ++ ")"
  | longText => "TEXT"
  | int16 => "smallint"
  | int32 => "INTEGER"
  | int64 => "bigint"
  | real => "float"

/-- A condition on the values of a column. -/
inductive Condition where
  | atLeast (low : Int)
  | above (low : Int)
  | between (low high : Int)
  | realBetween (low high : Binary32)
deriving DecidableEq, Repr

/-- The value meets the condition; null meets every one. -/
def Condition.admits : Condition → Cell → Bool
  | atLeast low, .int n => low ≤ n
  | above low, .int n => low < n
  | between low high, .int n => low ≤ n && n ≤ high
  | realBetween low high, .real x => Binary32.le low x && Binary32.le x high
  | _, .null => true
  | _, _ => false

/-- A column of a table. -/
structure ColumnSchema where
  column : Column
  type : ColumnType
  required : Bool := true
  default : Option String := none
  condition : Option Condition := none
deriving DecidableEq, Repr

/-- What deleting a row does to the rows that refer to it. -/
inductive OnDelete where
  | restrict
  | cascade
deriving DecidableEq, Repr

def OnDelete.text : OnDelete → String
  | restrict => "RESTRICT"
  | cascade => "CASCADE"

/-- A reference from a column to the identifiers of a table. -/
structure Reference where
  column : Column
  target : Table
  onDelete : OnDelete := .restrict
deriving DecidableEq, Repr

/-- A table: its columns, of which `id` is the key, and its references. -/
structure TableSchema where
  table : Table
  columns : List ColumnSchema
  references : List Reference
deriving DecidableEq, Repr

/-- An index of a table. -/
structure Index where
  name : String
  table : Table
  columns : List Column
  unique : Bool := true
deriving DecidableEq, Repr

end Enrollment.Store

namespace Enrollment

/-- The tables and the indexes of a store. -/
structure Schema where
  tables : List Store.TableSchema
  indexes : List Store.Index
deriving DecidableEq, Repr

namespace Schema

open Store

/-- No table. -/
def empty : Schema := ⟨[], []⟩

/-- The columns of a table; none if there is no such table. -/
def columns (s : Schema) (t : Table) : List ColumnSchema :=
  ((s.tables.find? (·.table = t)).map (·.columns)).getD []

/-- The references of a table. -/
def references (s : Schema) (t : Table) : List Reference :=
  ((s.tables.find? (·.table = t)).map (·.references)).getD []

/-- The indexes of a table. -/
def indexesOf (s : Schema) (t : Table) : List Index := s.indexes.filter (·.table = t)

end Schema

end Enrollment
