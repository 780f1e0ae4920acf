import Enrollment.Store.Schema

/-! # Relations between tables

A relation leads from a column of one table to a column of another, to one row or to many. Those
that a table declares are followed by whoever names them; those it shares are found from the two
tables alone, and are among the declared ones. -/

namespace Enrollment.Store

/-- A way from the rows of one table to the rows of another. -/
structure Relation where
  source : Table
  sourceColumn : Column
  target : Table
  targetColumn : Column
  toMany : Bool
deriving DecidableEq, Repr

namespace Relation

/-- From a column that holds identifiers to the row of another table. -/
def belongsTo (source : Table) (column : Column) (target : Table) : Relation :=
  ⟨source, column, target, .id, false⟩

/-- From a row to the rows of another table that hold its identifier in a column. -/
def hasMany (source target : Table) (column : Column) : Relation :=
  ⟨source, .id, target, column, true⟩

end Relation

namespace Table

/-- The relations that a table declares. -/
def declaredRelations : Table → List Relation
  | subjects => [.hasMany .subjects .sections .subjectId]
  | trimesters => [.hasMany .trimesters .sections .trimesterId]
  | spaceTimes => [.hasMany .spaceTimes .sectionSpaceTimes .spaceTimeId]
  | students => [.hasMany .students .courses .studentId]
  | faculties => [.hasMany .faculties .sectionTeachers .facultyId]
  | prerequisites =>
    [.belongsTo .prerequisites .subjectId .subjects,
      .belongsTo .prerequisites .requiredSubjectId .subjects]
  | sections =>
    [.belongsTo .sections .subjectId .subjects, .belongsTo .sections .trimesterId .trimesters,
      .hasMany .sections .sectionSpaceTimes .sectionId,
      .hasMany .sections .sectionTeachers .sectionId]
  | sectionSpaceTimes =>
    [.belongsTo .sectionSpaceTimes .sectionId .sections,
      .belongsTo .sectionSpaceTimes .spaceTimeId .spaceTimes]
  | sectionTeachers =>
    [.belongsTo .sectionTeachers .sectionId .sections,
      .belongsTo .sectionTeachers .facultyId .faculties]
  | courses =>
    [.belongsTo .courses .studentId .students, .belongsTo .courses .subjectId .subjects,
      .belongsTo .courses .trimesterId .trimesters, .belongsTo .courses .sectionId .sections]
  | notifications =>
    [.belongsTo .notifications .trimesterId .trimesters,
      .belongsTo .notifications .sectionId .sections]

/-- The relations of a table that are found from the two tables alone. -/
def sharedRelations : Table → List Relation
  | prerequisites | notifications => []
  | courses =>
    [.belongsTo .courses .studentId .students, .belongsTo .courses .sectionId .sections]
  | t => t.declaredRelations

theorem mem_declaredRelations_of_mem_sharedRelations {t : Table} {r : Relation}
    (h : r ∈ t.sharedRelations) : r ∈ t.declaredRelations := by
  cases t <;> simp_all [sharedRelations, declaredRelations]
  rcases h with h | h <;> simp [h]

end Table

end Enrollment.Store
