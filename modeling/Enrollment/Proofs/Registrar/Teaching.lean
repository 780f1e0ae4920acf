import Enrollment.Proofs.Registrar.Revision

/-! # Teachers of sections

A section is reviewed together with the teachers it names, and each of them has to be a teacher. The
review of a member of the faculty looks at no section, so a teacher of a section may be made
something else, though nobody who teaches a section can be removed.

* `Writes.teaches`: who is joined to a section that is written is a teacher then.
* `Step.taughtByTeachers_iff`: a call keeps it so iff it does not revise a teacher of a section.
* `taughtByTeachers_throughout_iff`: the same for all moments of a run. -/

namespace Enrollment.Registrar

open Store

variable {s s' : Store} {call : Call} {e new : Entity}

/-- A member of the faculty is stored, as one of the given sort. -/
def HasFaculty (s : Store) (key : Uuid) (sort : UserType) : Prop :=
  ∃ f ∈ s.faculties, f.audit.id = key ∧ f.userType = Named.name sort

/-- Whoever is joined to a section is stored as a teacher. -/
def TaughtByTeachers (s : Store) : Prop :=
  ∀ l ∈ s.sectionTeachers, HasFaculty s l.facultyId .teacher

instance (s : Store) (key : Uuid) (sort : UserType) : Decidable (HasFaculty s key sort) :=
  inferInstanceAs (Decidable (∃ f ∈ s.faculties, f.audit.id = key ∧ f.userType = Named.name sort))

instance (s : Store) : Decidable (TaughtByTeachers s) :=
  inferInstanceAs (Decidable (∀ l ∈ s.sectionTeachers, HasFaculty s l.facultyId .teacher))

/-- A member of the faculty is a teacher or is joined to no section. -/
def MayTeach (s : Store) (f : Faculty) : Prop :=
  ∀ l ∈ s.sectionTeachers, l.facultyId = f.audit.id → f.userType = .teacher

/-! ### Rows -/

theorem exists_faculty_of_link {l : SectionTeacherRow} (hs : s.Conforms)
    (hl : l ∈ s.sectionTeachers) : ∃ f ∈ s.faculties, f.audit.id = l.facultyId := by
  have hcell : (Row.sectionTeacher l).cell .facultyId = .uuid l.facultyId := rfl
  have href : ⟨.facultyId, .faculties, .restrict⟩ ∈
      Schema.migrated.references .sectionTeachers := by decide
  obtain ⟨q, hq, hat⟩ := hs.exists_isAt (mem_typed_iff.mp hl) href hcell
  obtain ⟨htable, hid⟩ := Row.isAt_iff.mp hat
  cases q <;> simp only [Row.table, reduceCtorEq] at htable
  exact ⟨_, mem_typed_iff.mpr hq, Option.some.inj hid⟩

theorem faculty_eq_of_id {f g : FacultyRow} (hs : s.Conforms) (hf : f ∈ s.faculties)
    (hg : g ∈ s.faculties) (hid : f.audit.id = g.audit.id) : f = g :=
  Row.faculty.inj (hs.eq_of_isAt (mem_typed_iff.mp hf) (mem_typed_iff.mp hg)
    (Row.isAt_iff.mpr ⟨rfl, congrArg some hid⟩) (Row.isAt_iff.mpr ⟨rfl, rfl⟩))

theorem faculty_of_ofEntity {row : Row} {r : FacultyRow} (h : Row.ofEntity e = .ok row)
    (hr : row.settled = .faculty r) : ∃ f, e = .faculty f ∧ r.audit = f.audit ∧
      r.userType = Named.name f.userType := by
  have hkind : e.kind = .faculty := tableOf_injective <| by
    rw [← (matches_ofEntity h).1, ← Row.table_settled, hr]; rfl
  cases e <;> simp only [Entity.kind, reduceCtorEq] at hkind
  rename_i f
  obtain rfl := Except.ok.inj h
  obtain rfl := Row.faculty.inj hr
  exact ⟨f, rfl, rfl, rfl⟩

theorem exists_section_of_mem_linkRows {l : SectionTeacherRow}
    (h : Row.sectionTeacher l ∈ linkRows e) :
    ∃ sec, e = .section sec ∧ l.facultyId ∈ sec.teacherIds := by
  cases e
  case «section» sec =>
    refine ⟨sec, rfl, ?_⟩
    simp only [linkRows, spaceTimeRows, teacherRows, List.mem_append, List.mem_flatMap,
      List.mem_map, reduceCtorEq, and_false, exists_false, false_or] at h
    obtain ⟨id, hid, heq⟩ := h
    obtain rfl := Row.sectionTeacher.inj heq
    exact hid
  all_goals exact absurd h List.not_mem_nil

theorem exists_faculty_of_mem_load {sec : Section} {old : Option Entity} {part : Snapshot}
    {f : Faculty} (h : s.load (.section sec) old = .ok part) (hf : f ∈ part.faculties) :
    HasFaculty s f.audit.id f.userType := by
  simp only [load, loadSection, bind_eq_ok_iff, pure_eq_ok_iff] at h
  obtain ⟨_, _, _, _, _, _, faculties, hfaculties, rfl⟩ := h
  obtain ⟨r, hr, hread⟩ := (mem_iff_of_mapM hfaculties).mp hf
  simp only [FacultyRow.toFaculty, bind_eq_ok_iff, pure_eq_ok_iff, ofName_eq_ok_iff] at hread
  obtain ⟨sort, hsort, rfl⟩ := hread
  exact ⟨r, (List.mem_filter.mp hr).1, rfl, hsort.symm⟩

/-! ### One call -/

/-- **Who is joined to a section that is written** is stored as a teacher then. -/
theorem Writes.teaches {l : SectionTeacherRow} (h : Writes call s s' e new)
    (hl : Row.sectionTeacher l ∈ linkRows new) : HasFaculty s l.facultyId .teacher := by
  obtain ⟨sec', rfl, hteacher⟩ := exists_section_of_mem_linkRows hl
  obtain ⟨sec, a, rfl, rfl, -⟩ := h.exists_section
  obtain ⟨old, part, replacing, hload, -, hrules⟩ := h.accepted
  obtain ⟨_, _, hpasses⟩ :=
    Section.passes_of_mayEnter (Entity.mayEnter_of_accepted hrules nofun nofun)
  obtain ⟨f, hf, hteach⟩ := hpasses.teachers _ hteacher
  obtain ⟨hmem, hid⟩ := mem_of_rowById hf
  have hstored := exists_faculty_of_mem_load hload hmem
  rw [beq_iff_eq.mp hteach] at hstored
  exact hid ▸ hstored

theorem Writes.faculty_row {row : Row} {r : FacultyRow} (h : Writes call s s' e new)
    (hrow : Row.ofEntity new = .ok row) (hr : row.settled = .faculty r) :
    ∃ f, e = .faculty f ∧ f.audit.id = r.audit.id ∧ r.userType = Named.name f.userType := by
  obtain ⟨f', rfl, haudit, hsort⟩ := faculty_of_ofEntity hrow hr
  have hkind := h.kind_new
  have hid := h.id_new
  obtain ⟨a, ha⟩ := h.exists_withAudit
  cases e <;> simp only [Entity.kind, reduceCtorEq] at hkind
  rename_i f
  obtain rfl := Entity.faculty.inj ha
  exact ⟨f, rfl, hid.symm.trans (congrArg Audit.id haudit.symm), hsort⟩

theorem Step.link_cases {l : SectionTeacherRow} (h : Step call s s') (hs : s.Conforms)
    (hl : l ∈ s'.sectionTeachers) : l ∈ s.sectionTeachers ∨
      ∃ e new, Writes call s s' e new ∧ Row.sectionTeacher l ∈ linkRows new := by
  cases h.origin hs (mem_typed_iff.mp hl) with
  | stored hstays =>
    obtain rfl := hstays.eq nofun
    exact .inl (mem_typed_iff.mpr hstays.mem)
  | written _ hrow heq =>
    have hjunction := isJunction_eq_false_of_isAt (isAt_settled_of_ofEntity hrow)
    rw [← heq] at hjunction
    cases hjunction
  | joined hw hlink => exact .inr ⟨_, _, hw, hlink⟩

/-- **Sections stay with teachers** over a call that makes no teacher of one something else. -/
theorem Step.taughtByTeachers (h : Step call s s') (hs : s.Conforms) (ht : TaughtByTeachers s)
    (hmay : ∀ f new, Writes call s s' (.faculty f) new → MayTeach s f) : TaughtByTeachers s' := by
  intro l hl
  obtain ⟨f', hf', hid'⟩ := exists_faculty_of_link (h.conforms hs) hl
  refine ⟨f', hf', hid', ?_⟩
  have hlink := h.link_cases hs hl
  cases h.origin hs (mem_typed_iff.mp hf') with
  | stored hstays =>
    obtain rfl := hstays.eq nofun
    have hteacher : HasFaculty s l.facultyId .teacher := by
      rcases hlink with hl | ⟨_, _, hw, hlink⟩
      · exact ht l hl
      · exact hw.teaches hlink
    obtain ⟨f, hf, hid, hsort⟩ := hteacher
    rw [faculty_eq_of_id hs (mem_typed_iff.mpr hstays.mem) hf (hid'.trans hid.symm)]
    exact hsort
  | written hw hrow heq =>
    obtain ⟨f, rfl, hid, hsort⟩ := hw.faculty_row hrow heq.symm
    rcases hlink with hl | ⟨_, _, hw', hlink⟩
    · rw [hsort, hmay f _ hw l hl (hid'.symm.trans hid.symm)]
    · -- a call that writes a member of the faculty writes no section
      obtain ⟨sec, rfl, -⟩ := exists_section_of_mem_linkRows hlink
      have hkind := hw'.kind_new
      rw [hw'.unique hw] at hkind
      cases hkind
  | joined _ hlink => exact absurd hlink (not_mem_linkRows rfl)

/-- If sections are taught by teachers after a call, it has made none of them something else. -/
theorem Writes.mayTeach {f : Faculty} (hs : s.Conforms) (hw : Writes call s s' (.faculty f) new)
    (ht : TaughtByTeachers s') : MayTeach s f := by
  intro l hl hid
  have hlinks : linksOf new (.sectionTeacher l) = false := by
    have hkind := hw.kind_new
    cases new <;> simp only [Entity.kind, reduceCtorEq] at hkind
    rfl
  have hat : (Row.sectionTeacher l).isAt (tableOf .faculty) f.audit.id = false := rfl
  have hl' := mem_typed_iff.mpr (hw.mem_of_mem (mem_typed_iff.mp hl) (by rintro ⟨⟩) hat hlinks)
  obtain ⟨g, hg, hgid, hsort⟩ := ht l hl'
  obtain ⟨row, hrow, hrowMem, hrowAt⟩ := hw.exists_row hs
  have heq : row.settled = .faculty g := hw.conforms.eq_of_isAt hrowMem (mem_typed_iff.mp hg)
    hrowAt (Row.isAt_iff.mpr ⟨rfl, congrArg some (hgid.trans hid)⟩)
  obtain ⟨x, hx, -, hxsort⟩ := hw.faculty_row hrow heq
  obtain rfl := Entity.faculty.inj hx
  exact Named.name_injective (hxsort.symm.trans hsort)

/-- **Over a call**, sections stay with teachers iff a member of the faculty that it writes, if it
writes one, may teach. -/
theorem Step.taughtByTeachers_iff (h : Step call s s') (hs : s.Conforms) (ht : TaughtByTeachers s) :
    TaughtByTeachers s' ↔ ∀ f new, Writes call s s' (.faculty f) new → MayTeach s f :=
  ⟨fun ht' _ _ hw => hw.mayTeach hs ht', h.taughtByTeachers hs ht⟩

theorem mayTeach_of_fresh {f : Faculty} (hs : s.Conforms)
    (h : ∀ q ∈ s.rows, q.isAt .faculties f.audit.id = false) : MayTeach s f := by
  intro l hl hid
  obtain ⟨g, hg, hgid⟩ := exists_faculty_of_link hs hl
  have hat : (Row.faculty g).isAt .faculties f.audit.id = true :=
    Row.isAt_iff.mpr ⟨rfl, congrArg some (hgid.trans hid)⟩
  exact absurd hat (Bool.eq_false_iff.mp (h _ (mem_typed_iff.mp hg)))

/-- Each stored member of the faculty is a teacher or an administrator. -/
theorem Reachable.sort_cases {r : FacultyRow} (h : Reachable s) (hr : r ∈ s.faculties) :
    r.userType = Named.name UserType.teacher ∨ r.userType = Named.name UserType.admin := by
  induction h with
  | empty => exact absurd hr List.not_mem_nil
  | after hreach call ih =>
    cases (step_after hreach.conforms call).origin hreach.conforms (mem_typed_iff.mp hr) with
    | stored hstays =>
      obtain rfl := hstays.eq nofun
      exact ih (mem_typed_iff.mpr hstays.mem)
    | written hw hrow heq =>
      obtain ⟨f, rfl, -, hsort⟩ := hw.faculty_row hrow heq.symm
      obtain ⟨_, _, _, -, -, hrules⟩ := hw.accepted
      have hstudent : f.userType ≠ .student := bne_iff_ne.mp
        (require_eq_ok_iff.mp (Entity.mayEnter_of_accepted hrules nofun nofun))
      rw [hsort]
      cases hf : f.userType
      · exact absurd hf hstudent
      · exact .inl rfl
      · exact .inr rfl
    | joined _ hlink => exact absurd hlink (not_mem_linkRows rfl)

/-! ### Runs -/

/-- **Sections are taught by teachers throughout a run** iff no revision makes a member of the
faculty who is joined to a section anything but a teacher. Whoever is joined to one is stored in any
case, as a teacher or an administrator. -/
theorem taughtByTeachers_throughout_iff (calls : List Call) :
    (∀ n, ∀ l ∈ (storeAt calls n).sectionTeachers,
      HasFaculty (storeAt calls n) l.facultyId .teacher ∨
        HasFaculty (storeAt calls n) l.facultyId .admin) ∧
    ((∀ n, TaughtByTeachers (storeAt calls n)) ↔
      ∀ n f, RevisedAt calls n (.faculty f) → MayTeach (storeAt calls n) f) := by
  constructor
  · intro n l hl
    have hreach := reachable_storeAt calls n
    obtain ⟨f, hf, hid⟩ := exists_faculty_of_link hreach.conforms hl
    exact (hreach.sort_cases hf).imp (⟨f, hf, hid, ·⟩) (⟨f, hf, hid, ·⟩)
  · have hiff := throughout_iff_of_step (P := TaughtByTeachers)
      (Q := fun s e => ∀ f, e = .faculty f → MayTeach s f) (fun l hl => absurd hl List.not_mem_nil)
      (fun h hs ht => (h.taughtByTeachers_iff hs ht).trans
        ⟨fun hmay e new hw f he => hmay f new (he ▸ hw), fun hmay f new hw => hmay _ new hw f rfl⟩)
      (fun h hs f he => mayTeach_of_fresh hs (by subst he; exact fun q hq => h.fresh hq)) calls
    exact hiff.trans ⟨fun h n f hf => h n _ hf f rfl, fun h n e he f hf => h n f (hf ▸ he)⟩

namespace Sample

open Enrollment.Sample

/-- A member of the faculty who may teach. -/
def teacher : Faculty := ⟨block 9, "Teacher", "teacher@university", .teacher⟩

/-- Who teaches a section becomes an administrator. -/
def promoted : List Call :=
  [subject 1 "CSE102", trimester, spaceTime, .faculty teacher,
    .section { «section» with teacherIds := [ident 9] }].map (⟨.still noon, .create ·⟩) ++
  [⟨.still noon, .update (.faculty { teacher with userType := .admin })⟩]

end Sample

/-- A section may be left with a teacher who is none. -/
theorem no_teacher_after_revision : ¬ ∀ calls, TaughtByTeachers (storeAfter calls) := fun h =>
  absurd (h Sample.promoted) (by decide +kernel)

end Enrollment.Registrar
