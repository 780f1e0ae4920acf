import Enrollment.Store.Conversion
import Enrollment.Store.Migration

/-! # The store

A store is a list of rows in the order in which they came. Each table is seen as the list of its
own rows, typed.

* `mem_typed_iff`: the typed rows of a table are its rows, and nothing else. -/

namespace Enrollment

namespace Store

/-- A type of rows, those of one table. -/
class RowType (ρ : Type) where
  toRow : ρ → Row
  ofRow? : Row → Option ρ
  ofRow?_eq_some_iff : ∀ {r : Row} {a : ρ}, ofRow? r = some a ↔ r = toRow a := by
    intro r a; cases r <;> simp

instance : RowType SubjectRow where
  toRow := .subject
  ofRow? | .subject r => some r | _ => none

instance : RowType TrimesterRow where
  toRow := .trimester
  ofRow? | .trimester r => some r | _ => none

instance : RowType SpaceTimeRow where
  toRow := .spaceTime
  ofRow? | .spaceTime r => some r | _ => none

instance : RowType StudentRow where
  toRow := .student
  ofRow? | .student r => some r | _ => none

instance : RowType FacultyRow where
  toRow := .faculty
  ofRow? | .faculty r => some r | _ => none

instance : RowType PrerequisiteRow where
  toRow := .prerequisite
  ofRow? | .prerequisite r => some r | _ => none

instance : RowType SectionRow where
  toRow := .section
  ofRow? | .section r => some r | _ => none

instance : RowType SectionSpaceTimeRow where
  toRow := .sectionSpaceTime
  ofRow? | .sectionSpaceTime r => some r | _ => none

instance : RowType SectionTeacherRow where
  toRow := .sectionTeacher
  ofRow? | .sectionTeacher r => some r | _ => none

instance : RowType CourseRow where
  toRow := .course
  ofRow? | .course r => some r | _ => none

instance : RowType NotificationRow where
  toRow := .notification
  ofRow? | .notification r => some r | _ => none

end Store

/-- The rows of all tables. -/
structure Store where
  rows : List Store.Row := []
deriving DecidableEq, Repr

namespace Store

/-- Nothing is stored. -/
def empty : Store := {}

/-- The rows of a type. -/
def typed (s : Store) (ρ : Type) [RowType ρ] : List ρ := s.rows.filterMap RowType.ofRow?

theorem mem_typed_iff {s : Store} {ρ : Type} [RowType ρ] {a : ρ} :
    a ∈ s.typed ρ ↔ RowType.toRow a ∈ s.rows := by
  simp only [typed, List.mem_filterMap, RowType.ofRow?_eq_some_iff]
  exact ⟨fun ⟨_, h, e⟩ => e ▸ h, fun h => ⟨_, h, rfl⟩⟩

abbrev subjects (s : Store) : List SubjectRow := s.typed SubjectRow

abbrev trimesters (s : Store) : List TrimesterRow := s.typed TrimesterRow

abbrev spaceTimes (s : Store) : List SpaceTimeRow := s.typed SpaceTimeRow

abbrev students (s : Store) : List StudentRow := s.typed StudentRow

abbrev faculties (s : Store) : List FacultyRow := s.typed FacultyRow

abbrev prerequisites (s : Store) : List PrerequisiteRow := s.typed PrerequisiteRow

abbrev sections (s : Store) : List SectionRow := s.typed SectionRow

abbrev sectionSpaceTimes (s : Store) : List SectionSpaceTimeRow := s.typed SectionSpaceTimeRow

abbrev sectionTeachers (s : Store) : List SectionTeacherRow := s.typed SectionTeacherRow

abbrev courses (s : Store) : List CourseRow := s.typed CourseRow

abbrev notifications (s : Store) : List NotificationRow := s.typed NotificationRow

end Store

end Enrollment
