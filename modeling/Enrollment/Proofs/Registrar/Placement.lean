import Enrollment.Proofs.Registrar.Revision

/-! # Courses and the sections that they name

A course is reviewed together with the section it names, and has to be of its subject and its
trimester. The review of a section looks at no course, so a revision may take a section away from
the courses in it.

* `Step.coursesAgree`: a call keeps courses and sections in agreement unless it revises a section
  against the courses in it.
* `Writes.suitsCourses`: where they agree after a revision, it was not against those courses.
* `coursesAgree_throughout_iff`: so they agree throughout a run iff no revision is. -/

namespace Enrollment.Registrar

open Store

variable {s s' : Store} {call : Call}

/-- Each stored course that names a section is of the trimester and the subject of that section. -/
def CoursesAgree (s : Store) : Prop :=
  ∀ c ∈ s.courses, ∀ key ∈ c.sectionId, ∃ r ∈ s.sections, r.audit.id = key ∧
    r.trimesterId = c.trimesterId ∧ r.subjectId = c.subjectId

instance (s : Store) : Decidable (CoursesAgree s) :=
  letI (c : CourseRow) : Decidable (∀ key ∈ c.sectionId, ∃ r ∈ s.sections, r.audit.id = key ∧
    r.trimesterId = c.trimesterId ∧ r.subjectId = c.subjectId) := Option.decidableForallMem _
  inferInstanceAs (Decidable (∀ c ∈ s.courses, ∀ key ∈ c.sectionId, ∃ r ∈ s.sections,
    r.audit.id = key ∧ r.trimesterId = c.trimesterId ∧ r.subjectId = c.subjectId))

/-- A section is of the trimester and the subject of each stored course that names it. -/
def SuitsCourses (s : Store) (sec : Section) : Prop :=
  ∀ c ∈ s.courses, c.sectionId = some sec.audit.id →
    sec.trimesterId = some c.trimesterId ∧ sec.subjectId = some c.subjectId

/-! ### One call -/

theorem exists_section_of_course {c : CourseRow} {key : Uuid} (hs : s.Conforms)
    (hc : c ∈ s.courses) (hkey : c.sectionId = some key) :
    ∃ r ∈ s.sections, r.audit.id = key := by
  have hcell : (Row.course c).cell .sectionId = .uuid key :=
    congrArg (Cell.ofOption Cell.uuid) hkey
  have href : ⟨.sectionId, .sections, .restrict⟩ ∈ Schema.migrated.references .courses := by decide
  obtain ⟨q, hq, hat⟩ := hs.exists_isAt (mem_typed_iff.mp hc) href hcell
  obtain ⟨r, rfl, hid⟩ := exists_section_of_isAt hat
  exact ⟨r, mem_typed_iff.mpr hq, hid⟩

theorem Writes.course_agrees {e new : Entity} {row : Row} {c : CourseRow} {key : Uuid}
    (hs : s.Conforms) (h : Writes call s s' e new) (hrow : Row.ofEntity new = .ok row)
    (hc : row.settled = .course c) (hkey : c.sectionId = some key) :
    ∃ r ∈ s.sections,
      r.audit.id = key ∧ r.trimesterId = c.trimesterId ∧ r.subjectId = c.subjectId := by
  obtain ⟨n, rfl, -, hsubject, htrimester, hsection⟩ := course_of_ofEntity hrow hc
  obtain ⟨x, rfl⟩ : ∃ x, e = .course x := exists_course_of_kind h.kind_new.symm
  obtain ⟨a, ha⟩ := h.exists_withAudit
  obtain rfl := Entity.course.inj ha
  obtain ⟨old, part, replacing, hload, -, hrules⟩ := h.accepted
  obtain ⟨st, hcheck⟩ := Course.check_of_accepted hrules
  obtain ⟨_, subject, trimester, _, hpasses⟩ := Course.passes_of_check hcheck
  obtain ⟨sec, hsec, hsecTrimester, hsecSubject⟩ := hpasses.sectionAt (hsection.trans hkey)
  -- the section that the rules have found stands for a stored row
  obtain ⟨hmem, hid⟩ := mem_of_rowById hsec
  obtain ⟨r, hr, rfl⟩ := exists_row_of_mem_load hs hload hmem
  refine ⟨r, hr, hid, Option.some.inj ?_, Option.some.inj ?_⟩
  · exact hsecTrimester.trans (hpasses.trimesterId.symm.trans htrimester)
  · exact hsecSubject.trans (hpasses.subjectId.symm.trans hsubject)

/-- A course that is stored after a call was in agreement with a section before it, if all courses
were. -/
theorem Step.agreed {c : CourseRow} {key : Uuid} (h : Step call s s') (hs : s.Conforms)
    (hagree : CoursesAgree s) (hc : c ∈ s'.courses) (hkey : c.sectionId = some key) :
    ∃ r ∈ s.sections, r.audit.id = key ∧ r.trimesterId = c.trimesterId ∧
      r.subjectId = c.subjectId := by
  cases h.origin hs (mem_typed_iff.mp hc) with
  | written hw hrow heq => exact hw.course_agrees hs hrow heq.symm hkey
  | joined _ hlink => exact absurd hlink (not_mem_linkRows rfl)
  | stored hstays =>
    obtain rfl := hstays.eq nofun
    exact hagree c (mem_typed_iff.mpr hstays.mem) key hkey

theorem mem_courses_of_writes {c : CourseRow} {sec : Section} {new : Entity} (h : Step call s s')
    (hs : s.Conforms) (hw : Writes call s s' (.section sec) new) (hc : c ∈ s'.courses) :
    c ∈ s.courses := by
  cases h.origin hs (mem_typed_iff.mp hc) with
  | written hw' hrow heq =>
    obtain ⟨n, rfl, -⟩ := course_of_ofEntity hrow heq.symm
    have hkind := hw'.kind_new
    rw [← hw.unique hw'] at hkind
    cases hkind
  | joined _ hlink => exact absurd hlink (not_mem_linkRows rfl)
  | stored hstays =>
    obtain rfl := hstays.eq nofun
    exact mem_typed_iff.mpr hstays.mem

/-- **Courses and sections stay in agreement** over a call that writes no section against the
courses in it. -/
theorem Step.coursesAgree (h : Step call s s') (hs : s.Conforms) (hagree : CoursesAgree s)
    (hsuits : ∀ sec new, Writes call s s' (.section sec) new → SuitsCourses s sec) :
    CoursesAgree s' := by
  intro c hc key hkey
  obtain ⟨r', hr', hid'⟩ := exists_section_of_course (h.conforms hs) hc hkey
  refine ⟨r', hr', hid', ?_⟩
  cases h.origin hs (mem_typed_iff.mp hr') with
  | stored hstays =>
    obtain ⟨r, hr, -, hid, hsubject, htrimester⟩ := hstays.exists_section
    obtain ⟨x, hx, hxid, hxTrimester, hxSubject⟩ := h.agreed hs hagree hc hkey
    obtain rfl := hs.section_eq hr hx ((hid.trans hid').trans hxid.symm)
    exact ⟨htrimester.symm.trans hxTrimester, hsubject.symm.trans hxSubject⟩
  | written hw hrow heq =>
    obtain ⟨sec, rfl, hid, hsubject, htrimester⟩ := hw.section_row hrow heq.symm
    have hcsec : c.sectionId = some sec.audit.id := by rw [hid, hid']; exact hkey
    obtain ⟨hcTrimester, hcSubject⟩ :=
      hsuits sec _ hw c (mem_courses_of_writes h hs hw hc) hcsec
    exact ⟨Option.some.inj (htrimester.symm.trans hcTrimester),
      Option.some.inj (hsubject.symm.trans hcSubject)⟩
  | joined _ hlink => exact absurd hlink (not_mem_linkRows rfl)

theorem mem_courses_after_writes {c : CourseRow} {sec : Section} {new : Entity}
    (hw : Writes call s s' (.section sec) new) (hc : c ∈ s.courses) : c ∈ s'.courses := by
  have hlinks : linksOf new (.course c) = false := by cases new <;> rfl
  have hat : (Row.course c).isAt (tableOf .section) sec.audit.id = false :=
    Bool.eq_false_iff.mpr fun hat => by cases (Row.isAt_iff.mp hat).1
  exact mem_typed_iff.mpr (hw.mem_of_mem (mem_typed_iff.mp hc) nofun hat hlinks)

/-- If courses and sections agree after a call, the section that the call has written suits the
courses in it. -/
theorem Writes.suitsCourses {sec : Section} {new : Entity} (hs : s.Conforms)
    (hw : Writes call s s' (.section sec) new) (hagree : CoursesAgree s') :
    SuitsCourses s sec := by
  intro c hc hkey
  obtain ⟨r', hr', hid', htrimester, hsubject⟩ :=
    hagree c (mem_courses_after_writes hw hc) _ hkey
  obtain ⟨row, hrow, hrowMem, hrowAt⟩ := hw.exists_row hs
  have heq : row.settled = .section r' := hw.conforms.eq_of_isAt hrowMem (mem_typed_iff.mp hr')
    hrowAt (Row.isAt_iff.mpr ⟨rfl, congrArg some hid'⟩)
  obtain ⟨x, hx, -, hxSubject, hxTrimester⟩ := hw.section_row hrow heq
  obtain rfl := Entity.section.inj hx
  exact ⟨htrimester ▸ hxTrimester, hsubject ▸ hxSubject⟩

theorem suitsCourses_of_fresh {sec : Section} (hs : s.Conforms)
    (h : ∀ q ∈ s.rows, q.isAt .sections sec.audit.id = false) : SuitsCourses s sec := by
  intro c hc hkey
  obtain ⟨r, hr, hid⟩ := exists_section_of_course hs hc hkey
  have hat : (Row.section r).isAt .sections sec.audit.id = true :=
    Row.isAt_iff.mpr ⟨rfl, congrArg some hid⟩
  exact absurd hat (Bool.eq_false_iff.mp (h _ (mem_typed_iff.mp hr)))

/-! ### Runs -/

/-- **Courses and sections agree throughout a run** iff each revision of a section suits the courses
that are in the section at that moment. -/
theorem coursesAgree_throughout_iff (calls : List Call) :
    (∀ n, CoursesAgree (storeAt calls n)) ↔
      ∀ n sec, RevisedAt calls n (.section sec) → SuitsCourses (storeAt calls n) sec := by
  constructor
  · rintro hagree n sec ⟨call, hcall, hcommand, hok⟩
    have hs := (reachable_storeAt calls n).conforms
    rcases step_storeAt calls n hs with ⟨call', hcall', hstep⟩ | ⟨hnone, -⟩
    · obtain rfl := Option.some.inj (hcall.symm.trans hcall')
      obtain ⟨new, hw⟩ := hstep.exists_writes hok (.inr hcommand)
      exact hw.suitsCourses hs (hagree (n + 1))
    · rw [hnone] at hcall
      cases hcall
  · intro hsuits n
    induction n with
    | zero => exact fun c hc => absurd hc List.not_mem_nil
    | succ n ih =>
      have hs := (reachable_storeAt calls n).conforms
      rcases step_storeAt calls n hs with ⟨call, hcall, hstep⟩ | ⟨-, hsame⟩
      · refine hstep.coursesAgree hs ih fun sec new hw => ?_
        -- a section that is created is in no course yet
        cases hw with
        | created _ _ h => exact suitsCourses_of_fresh hs fun q hq => h.fresh hq
        | updated hcommand hok _ => exact hsuits n sec ⟨call, hcall, hcommand, hok⟩
      · rw [hsame]
        exact ih

namespace Sample

open Enrollment.Sample

/-- The section is given to another subject after the student has registered in it. -/
def retaught : List Call :=
  calls ++ [⟨.still noon, .update (.section { registered with subjectId := some (ident 2) })⟩]

end Sample

/-- A revision may take a section away from the courses in it. -/
theorem disagreement_after_revision : ¬ ∀ calls, CoursesAgree (storeAfter calls) := fun h =>
  absurd (h Sample.retaught) (by decide +kernel)

end Enrollment.Registrar
