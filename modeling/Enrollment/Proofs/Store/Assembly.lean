import Enrollment.Proofs.Sample
import Enrollment.Store.Reading
import Mathlib.Data.List.Forall2

/-! # Sections as they are assembled

The rows of sections are read first, the rows that join them to space times and teachers after them.
These are listed under the sections, in whatever order they come, and each section takes its list
away. Nothing is lost or mixed on the way: every row that was selected gives one section, which is
joined to an identifier as often as there are rows that say so.

* `standsFor_joined`: a section with all that it is joined to stands for its row.
* `selectSections_exact`: the sections that are read stand for the rows that are selected. -/

namespace Enrollment.Store

/-- A section stands for a row if it has the columns of the row, and names a space time or a teacher
as often as the junction rows of the section do. -/
structure StandsFor (s : Store) (r : SectionRow) (sec : Section) : Prop where
  columns : sec = r.toSection sec.spaceTimeIds sec.teacherIds
  spaceTimes : ∀ id, sec.spaceTimeIds.count id =
    s.sectionSpaceTimes.countP fun j => j.sectionId = r.audit.id ∧ j.spaceTimeId = id
  teachers : ∀ id, sec.teacherIds.count id =
    s.sectionTeachers.countP fun j => j.sectionId = r.audit.id ∧ j.facultyId = id

theorem count_map_filter {ρ : Type} (rows : List ρ) (owner named : ρ → Uuid) (key id : Uuid) :
    ((rows.filter (owner · = key)).map named).count id =
      rows.countP fun j => owner j = key ∧ named j = id := by
  rw [List.count_eq_countP, List.countP_map, List.countP_filter]
  exact List.countP_congr fun j _ => by simp [and_comm]

theorem standsFor_joined (s : Store) (r : SectionRow) : s.StandsFor r (s.joined r) :=
  ⟨rfl, count_map_filter s.sectionSpaceTimes (·.sectionId) (·.spaceTimeId) r.audit.id,
    count_map_filter s.sectionTeachers (·.sectionId) (·.facultyId) r.audit.id⟩

/-- **Sections are joined without loss or mixing.** If no two sections have one identifier, whatever
rows are selected, one section is read for each of them, in their order, and stands for it. -/
theorem selectSections_exact (s : Store) (p : SectionRow → Bool)
    (h : (s.sections.map (·.audit.id)).Nodup) :
    List.Forall₂ s.StandsFor (s.sections.filter p) (s.selectSections p) := by
  rw [selectSections_eq_map h, List.forall₂_map_right_iff, List.forall₂_same]
  exact fun r _ => standsFor_joined s r

namespace Sample

open Enrollment.Sample

/-- The row of a section in a trimester. -/
def offered (n trimester : Nat) : Row := .section ⟨block n, ident 0, ident trimester, 30, 0⟩

def books (n spaceTime : Nat) : Row :=
  .sectionSpaceTime ⟨none, ident n, ident spaceTime, ident 9, noon⟩

def teaches (n teacher : Nat) : Row := .sectionTeacher ⟨none, ident n, ident teacher, noon⟩

/-- Two sections in one trimester, a third in another, and what they are joined to, in no order. -/
def interleaved : Store :=
  ⟨[books 1 11, offered 1 9, teaches 2 21, books 3 12, books 2 13, offered 2 9, books 1 12,
    offered 3 8, teaches 3 21, teaches 1 21, books 2 11, teaches 2 22]⟩

def inNine (r : SectionRow) : Bool := r.trimesterId = ⟨9⟩

end Sample

open Store.Sample in
theorem selectSections_of_interleaved :
    (interleaved.sections.map (·.audit.id)).Nodup ∧
      List.Forall₂ interleaved.StandsFor (interleaved.sections.filter inNine)
        (interleaved.selectSections inNine) ∧
      (interleaved.selectSections inNine).map (fun sec => (sec.spaceTimeIds, sec.teacherIds)) =
        [([⟨11⟩, ⟨12⟩], [⟨21⟩]), ([⟨13⟩, ⟨11⟩], [⟨21⟩, ⟨22⟩])] := by
  have h : (interleaved.sections.map (·.audit.id)).Nodup := by decide
  exact ⟨h, selectSections_exact interleaved inNine h, by decide⟩

end Enrollment.Store
