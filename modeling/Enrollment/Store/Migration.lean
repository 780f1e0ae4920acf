import Enrollment.Grade
import Enrollment.Store.Schema

/-! # Migrations

The schema is made in two steps. The first creates the tables, and the second adds the indexes; each
can be undone, the later one first. A history records which steps have been taken.

* `up_all_down_all`: taking and undoing all steps leaves the empty schema. -/

namespace Enrollment.Store

/-! ### Tables -/

/-- The columns of an audit block except its identifier. -/
def auditColumns : List ColumnSchema :=
  [{ column := .createdAt, type := .time }, { column := .updatedAt, type := .time },
    { column := .createdBy, type := .varchar none },
    { column := .updatedBy, type := .varchar none },
    { column := .version, type := .int32, default := some "0" }]

/-- A table whose rows have an identifier, columns of their own and an audit block. -/
def entityTable (table : Table) (columns : List ColumnSchema) (references : List Reference) :
    TableSchema :=
  ⟨table, { column := .id, type := .uuid } :: columns ++ auditColumns, references⟩

/-- A table whose rows join a section to something else. -/
def joinTable (table : Table) (columns : List ColumnSchema) (references : List Reference) :
    TableSchema :=
  ⟨table, { column := .id, type := .uuid } :: columns ++ [{ column := .createdAt, type := .time }],
    references⟩

/-- A column with an identifier. -/
def idColumn (column : Column) : ColumnSchema := { column, type := .uuid }

/-- A column with an identifier that may be missing. -/
def optionalIdColumn (column : Column) : ColumnSchema :=
  { column, type := .uuid, required := false }

/-- A column with an instant that may be missing. -/
def optionalTimeColumn (column : Column) : ColumnSchema :=
  { column, type := .time, required := false }

def gradeCondition : Condition := .realBetween Grade.lowest Grade.highest

def subjectsTable : TableSchema :=
  entityTable .subjects
    [{ column := .codeName, type := .varchar (some 16) },
      { column := .name, type := .varchar (some 100) },
      { column := .credits, type := .int16, condition := some (.between 1 5) },
      { column := .subjectType, type := .varchar none }] []

def trimestersTable : TableSchema :=
  entityTable .trimesters
    [{ column := .year, type := .int32, condition := some (.atLeast 2003) },
      { column := .season, type := .varchar none }, { column := .code, type := .int32 },
      { column := .status, type := .varchar none }, optionalTimeColumn .courseSelectionStart,
      optionalTimeColumn .courseSelectionEnd, optionalTimeColumn .sectionRegistrationStart,
      optionalTimeColumn .sectionRegistrationEnd] []

def spaceTimesTable : TableSchema :=
  entityTable .spaceTimes
    [{ column := .roomNumber, type := .varchar (some 32) },
      { column := .dayOfWeek, type := .varchar none },
      { column := .roomType, type := .varchar none },
      { column := .timeSlot, type := .int16, condition := some (.between 1 6) }] []

def studentsTable : TableSchema :=
  entityTable .students
    [{ column := .universityId, type := .int64, condition := some (.atLeast 0) },
      { column := .name, type := .varchar (some 100) },
      { column := .email, type := .varchar (some 100) }] []

def facultiesTable : TableSchema :=
  entityTable .faculties
    [{ column := .name, type := .varchar (some 100) },
      { column := .email, type := .varchar (some 100) },
      { column := .userType, type := .varchar none }] []

def prerequisitesTable : TableSchema :=
  entityTable .prerequisites
    [idColumn .subjectId, idColumn .requiredSubjectId,
      { column := .minGrade, type := .real, condition := some gradeCondition }]
    [{ column := .subjectId, target := .subjects },
      { column := .requiredSubjectId, target := .subjects }]

def sectionsTable : TableSchema :=
  entityTable .sections
    [idColumn .subjectId, idColumn .trimesterId,
      { column := .maxCapacity, type := .int32, condition := some (.above 0) },
      { column := .currentCapacity, type := .int32, default := some "0",
        condition := some (.atLeast 0) }]
    [{ column := .subjectId, target := .subjects },
      { column := .trimesterId, target := .trimesters }]

def sectionSpaceTimesTable : TableSchema :=
  joinTable .sectionSpaceTimes
    [idColumn .sectionId, idColumn .spaceTimeId, idColumn .trimesterId]
    [{ column := .sectionId, target := .sections, onDelete := .cascade },
      { column := .spaceTimeId, target := .spaceTimes },
      { column := .trimesterId, target := .trimesters }]

def sectionTeachersTable : TableSchema :=
  joinTable .sectionTeachers [idColumn .sectionId, idColumn .facultyId]
    [{ column := .sectionId, target := .sections, onDelete := .cascade },
      { column := .facultyId, target := .faculties }]

def coursesTable : TableSchema :=
  entityTable .courses
    [idColumn .studentId, idColumn .subjectId, idColumn .trimesterId,
      { column := .status, type := .varchar none }, optionalIdColumn .sectionId,
      { column := .grade, type := .real, required := false, condition := some gradeCondition }]
    [{ column := .studentId, target := .students }, { column := .subjectId, target := .subjects },
      { column := .trimesterId, target := .trimesters },
      { column := .sectionId, target := .sections }]

def notificationsTable : TableSchema :=
  entityTable .notifications
    [{ column := .scope, type := .varchar none },
      { column := .title, type := .varchar (some 128) }, { column := .content, type := .longText },
      optionalIdColumn .trimesterId, optionalIdColumn .sectionId, optionalIdColumn .targetUserId]
    [{ column := .trimesterId, target := .trimesters },
      { column := .sectionId, target := .sections }]

/-- The tables, each after those that it refers to. -/
def enrollmentTables : List TableSchema :=
  [subjectsTable, trimestersTable, spaceTimesTable, studentsTable, facultiesTable,
    prerequisitesTable, sectionsTable, sectionSpaceTimesTable, sectionTeachersTable, coursesTable,
    notificationsTable]

/-! ### Indexes -/

/-- The indexes that keep natural keys unique, and those that only speed up reading. -/
def enrollmentIndexes : List Index :=
  [⟨"idx_subjects_code_name", .subjects, [.codeName], true⟩,
    ⟨"idx_prerequisites_edge", .prerequisites, [.subjectId, .requiredSubjectId], true⟩,
    ⟨"idx_trimesters_code", .trimesters, [.code], true⟩,
    ⟨"idx_space_times_slot", .spaceTimes, [.roomNumber, .dayOfWeek, .timeSlot], true⟩,
    ⟨"idx_section_space_times_booking", .sectionSpaceTimes, [.trimesterId, .spaceTimeId], true⟩,
    ⟨"idx_section_teachers_assignment", .sectionTeachers, [.sectionId, .facultyId], true⟩,
    ⟨"idx_courses_enrollment", .courses, [.studentId, .subjectId, .trimesterId], true⟩,
    ⟨"idx_students_university_id", .students, [.universityId], true⟩,
    ⟨"idx_sections_trimester_id", .sections, [.trimesterId], false⟩,
    ⟨"idx_section_space_times_section_id", .sectionSpaceTimes, [.sectionId], false⟩,
    ⟨"idx_courses_section_id", .courses, [.sectionId], false⟩,
    ⟨"idx_notifications_scope", .notifications, [.scope], false⟩]

/-! ### Steps -/

/-- The steps that make the schema, in order. -/
inductive Migration where
  | createTables
  | addIndexes
deriving DecidableEq, Repr

instance : Named Migration where
  all := [.createTables, .addIndexes]
  name
    | .createTables => "m20251018_create_enrollment_tables"
    | .addIndexes => "m20251018_add_enrollment_indexes"

namespace Migration

/-- The schema after a step is taken. -/
def up (s : Schema) : Migration → Schema
  | createTables => { s with tables := s.tables ++ enrollmentTables }
  | addIndexes => { s with indexes := s.indexes ++ enrollmentIndexes }

/-- The schema after a step is undone. -/
def down (s : Schema) : Migration → Schema
  | createTables => { s with tables := s.tables.filter fun t => !enrollmentTables.contains t }
  | addIndexes => { s with indexes := s.indexes.filter fun i => !enrollmentIndexes.contains i }

end Migration

/-- A schema and the steps that have made it. -/
structure MigrationHistory where
  schema : Schema := .empty
  taken : List Migration := []
deriving DecidableEq, Repr

namespace MigrationHistory

/-- The steps that have been taken, in order. -/
def applied (h : MigrationHistory) : List Migration := Named.all.filter (h.taken.contains ·)

/-- The steps that have not been taken, in order. -/
def pending (h : MigrationHistory) : List Migration := Named.all.filter (!h.taken.contains ·)

/-- So many of a list, all of them if no count is given. -/
def limited {α : Type} (count : Option Nat) (xs : List α) : List α :=
  match count with
  | some n => xs.take n
  | none => xs

/-- So many pending steps are taken, all if no count is given. -/
def up (h : MigrationHistory) (count : Option Nat) : MigrationHistory :=
  let steps := limited count h.pending
  ⟨steps.foldl Migration.up h.schema, h.taken ++ steps⟩

/-- So many of the latest steps are undone, all if no count is given. -/
def down (h : MigrationHistory) (count : Option Nat) : MigrationHistory :=
  let steps := limited count h.applied.reverse
  ⟨steps.foldl Migration.down h.schema, h.taken.filter (!steps.contains ·)⟩

theorem up_all_down_all : (({} : MigrationHistory).up none).down none = {} := by decide +kernel

end MigrationHistory

end Enrollment.Store

namespace Enrollment

/-- The schema after all steps. -/
def Schema.migrated : Schema := (({} : Store.MigrationHistory).up none).schema

theorem Schema.migrated_eq :
    Schema.migrated = ⟨Store.enrollmentTables, Store.enrollmentIndexes⟩ := rfl

end Enrollment
