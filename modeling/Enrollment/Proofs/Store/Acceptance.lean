import Enrollment.Proofs.Review
import Enrollment.Proofs.Store.Fitting
import Enrollment.Proofs.Store.Loading

/-! # What the rules accept, the schema allows

Each condition of the schema on the row of an entity has a rule behind it: a constraint on a field,
a look at what the entity refers to, or a look at whatever else has its natural key. So an entity
that the rules accept in the face of all that is stored has a row, and the row fits.

* `Reader.isAt_of_find?`: a row that is found under a natural key is the only one.
* `exists_fits`: the row of an accepted entity fits, for a new row or for a revision. -/

namespace Enrollment.Store

variable {s : Store} {whole : Snapshot} {ctx : Context} {key : Uuid}

/-! ### What the rules see -/

/-- The rules see all that is stored, and what is stored under another identifier stands against a
candidate. -/
structure Shows (s : Store) (whole : Snapshot) (ctx : Context) (key : Uuid) : Prop where
  isWhole : s.IsWhole whole
  lookup_eq : ctx.lookup = whole.lookup
  collides : ∀ id, ctx.collides id = false → id = key

namespace Reader

variable {ρ α : Type} [RowType ρ] [Audited α] (R : Reader ρ α) {as : List α} {id : Uuid}

theorem has_of_rowById {p : ρ → Bool} (h : R.Selects s p as) (hid : (rowById id as).isSome = true) :
    s.Has (tableOf R.kind) id := by
  obtain ⟨a, ha⟩ := Option.isSome_iff_exists.mp hid
  obtain ⟨hmem, rfl⟩ := mem_of_rowById ha
  obtain ⟨r, hr, -, hread⟩ := (h a).mp hmem
  exact ⟨_, mem_typed_iff.mp hr, R.isAt_of_read hread⟩

/-- **What is found under a natural key is the only row that has it**: so if that is under an
identifier, any row that agrees on the key is. -/
theorem isAt_of_find? {columns : List Column} {new : Row} {p : α → Bool} {x : ρ}
    (hs : s.Conforms) (hr : s.Readable) (h : R.Selects s (fun _ => true) as)
    (hcolumns : columns ∈ naturalKeys (tableOf R.kind))
    (hp : ∀ r a, R.read r = .ok a → (new.agrees (RowType.toRow r) columns = true ↔ p a = true))
    (hfound : ∀ a ∈ as.find? p, Audited.id a = key) (hx : x ∈ s.typed ρ)
    (hagrees : new.agrees (RowType.toRow x) columns = true) :
    (RowType.toRow x).isAt (tableOf R.kind) key = true := by
  obtain ⟨a, ha⟩ := R.exists_read hr hx
  have hmem : a ∈ as := (h a).mpr ⟨x, hx, rfl, ha⟩
  cases hf : as.find? p with
  | none => exact absurd ((hp x a ha).mp hagrees) (List.find?_eq_none.mp hf a hmem)
  | some b =>
    obtain ⟨y, hy, -, hb⟩ := (h b).mp (List.mem_of_find?_eq_some hf)
    have hyagrees := (hp y b hb).mpr (List.find?_some hf)
    have hsame : RowType.toRow x = RowType.toRow y :=
      hs.eq_of_agrees (mem_typed_iff.mp hx) (mem_typed_iff.mp hy)
        (mem_keys_iff.mpr (.inl (R.table_of_read ha ▸ hcolumns)))
        (Row.agrees_of_agrees hagrees hyagrees)
    rw [hsame, ← hfound b hf]
    exact R.isAt_of_read hb

end Reader

namespace Shows

variable {id : Uuid} (h : s.Shows whole ctx key)
include h

theorem subject (hid : (ctx.lookup.subject id).isSome = true) : s.Has .subjects id :=
  Reader.subjects.has_of_rowById h.isWhole.subjects (by rwa [h.lookup_eq] at hid)

theorem trimester (hid : (ctx.lookup.trimester id).isSome = true) : s.Has .trimesters id :=
  Reader.trimesters.has_of_rowById h.isWhole.trimesters (by rwa [h.lookup_eq] at hid)

theorem spaceTime (hid : (ctx.lookup.spaceTime id).isSome = true) : s.Has .spaceTimes id :=
  Reader.spaceTimes.has_of_rowById h.isWhole.spaceTimes (by rwa [h.lookup_eq] at hid)

theorem student (hid : (ctx.lookup.student id).isSome = true) : s.Has .students id :=
  Reader.students.has_of_rowById h.isWhole.students (by rwa [h.lookup_eq] at hid)

theorem faculty (hid : (ctx.lookup.faculty id).isSome = true) : s.Has .faculties id :=
  Reader.faculties.has_of_rowById h.isWhole.faculties (by rwa [h.lookup_eq] at hid)

theorem exists_row {sec : Section} (hs : s.Conforms) (hid : ctx.lookup.sectionAt id = some sec) :
    ∃ r ∈ s.sections, r.audit.id = id ∧ s.joined r = sec := by
  rw [h.lookup_eq] at hid
  obtain ⟨hmem, hsec⟩ := mem_of_rowById hid
  rw [h.isWhole.sections, selectSections_eq_map hs.nodup_sectionIds] at hmem
  obtain ⟨r, hr, rfl⟩ := List.mem_map.mp hmem
  exact ⟨r, (List.mem_filter.mp hr).1, hsec, rfl⟩

theorem not_mem_of_booked {e : Section} {trimester slot : Uuid} {r : SectionRow}
    (hs : s.Conforms) (hfree : e.booked ctx trimester = none) (hr : r ∈ s.sections)
    (ht : r.trimesterId = trimester) (hne : r.audit.id ≠ key)
    (hslot : slot ∈ s.spaceTimeIds r.audit.id) : slot ∉ e.spaceTimeIds := by
  refine Section.booked_eq_none_iff.mp hfree r.audit.id slot ⟨s.joined r, ?_, rfl, ?_⟩ ?_
  · simp only [h.lookup_eq, Snapshot.lookup, h.isWhole.sections,
      selectSections_eq_map hs.nodup_sectionIds, List.mem_filter, List.mem_map]
    exact ⟨⟨r, ⟨hr, trivial⟩, rfl⟩, beq_iff_eq.mpr (congrArg some ht)⟩
  · exact List.contains_iff_mem.mpr hslot
  · exact (Bool.not_eq_false _).mp fun hcollides => hne (h.collides _ hcollides)

theorem sectionAt (hid : (ctx.lookup.sectionAt id).isSome = true) : s.Has .sections id := by
  refine Reader.bareSections.has_of_rowById (selects_bare s fun _ => true) ?_
  rw [← rowById_bare, Option.isSome_map, ← h.isWhole.sections]
  rwa [h.lookup_eq] at hid

end Shows

/-! ### Rows of accepted entities -/

section Fits

variable {a : Audit}

theorem fits_faculty {e : Faculty} : (Row.faculty (.of { e with audit := a })).Fits a.id s where
  id_eq := rfl
  conditions c hc := absurd (show c ∈ [] from hc) List.not_mem_nil
  natural columns hcolumns := absurd (show columns ∈ [] from hcolumns) List.not_mem_nil
  references ref href := absurd (show ref ∈ [] from href) List.not_mem_nil

theorem fits_prerequisite {e : Prerequisite} {subject required : Uuid}
    (hfields : Entity.violations (.prerequisite e) = []) (hsubject : s.Has .subjects subject)
    (hrequired : s.Has .subjects required)
    (hone : ∀ x ∈ s.prerequisites, x.subjectId = subject → x.requiredSubjectId = required →
      x.audit.id = a.id) :
    (Row.prerequisite ⟨a, subject, required, e.minGrade⟩).Fits a.id s where
  id_eq := rfl
  conditions c hc := by
    obtain rfl := List.mem_singleton.mp (show c ∈ [(.minGrade, gradeCondition)] from hc)
    have hgrade := (Entity.violationsOf_eq_nil_iff.mp hfields).2
      ⟨"min_grade", fun p => Constraint.grade p.minGrade⟩ (by simp [Prerequisite.constraints])
    exact Constraint.of_reals hgrade
  natural columns hcolumns q hq hagrees := by
    obtain rfl := List.mem_singleton.mp
      (show columns ∈ [[.subjectId, .requiredSubjectId]] from hcolumns)
    cases q
    case prerequisite x =>
      obtain ⟨rfl, rfl⟩ := Row.agrees_prerequisite_iff.mp hagrees
      exact Row.isAt_iff.mpr ⟨rfl, congrArg some (hone x (mem_typed_iff.mpr hq) rfl rfl)⟩
    all_goals cases (Row.agrees_iff.mp hagrees).1
  references ref href := by
    have hcases : ref = ⟨.subjectId, .subjects, .restrict⟩ ∨
        ref = ⟨.requiredSubjectId, .subjects, .restrict⟩ := by
      simpa using (show ref ∈ [⟨.subjectId, .subjects, .restrict⟩,
        ⟨.requiredSubjectId, .subjects, .restrict⟩] from href)
    rcases hcases with rfl | rfl
    · exact ⟨some subject, rfl, by simpa using hsubject⟩
    · exact ⟨some required, rfl, by simpa using hrequired⟩

variable (h : s.Shows whole ctx a.id)
include h

theorem fits_section {e : Section} {subject trimester : Uuid}
    (hfields : Entity.violations (.section e) = [])
    (hpasses : e.Passes ctx subject trimester) :
    (Row.section ⟨a, subject, trimester, e.maxCapacity, e.currentCapacity⟩).Fits a.id s where
  id_eq := rfl
  conditions c hc := by
    obtain ⟨hmax, hcurrent, -⟩ := Section.bounds_of_fields hfields
    rcases mem_conditions_sections_iff.mp hc with rfl | rfl
    · exact decide_eq_true (Int32.lt_iff_toInt_lt.mp hmax)
    · exact decide_eq_true (Int32.le_iff_toInt_le.mp hcurrent)
  natural columns hcolumns := absurd (show columns ∈ [] from hcolumns) List.not_mem_nil
  references ref href := by
    rcases mem_references_sections_iff.mp href with rfl | rfl
    · exact ⟨some subject, rfl, by simpa using h.subject hpasses.subjectStored⟩
    · exact ⟨some trimester, rfl, by simpa using h.trimester hpasses.trimesterStored⟩

theorem fits_notification {e : Notification} (hrules : e.mayEnter ctx = .ok ()) :
    (Row.notification (.of { e with audit := a })).Fits a.id s where
  id_eq := rfl
  conditions c hc := absurd (show c ∈ [] from hc) List.not_mem_nil
  natural columns hcolumns := absurd (show columns ∈ [] from hcolumns) List.not_mem_nil
  references ref href := by
    obtain ⟨htrimester, hsection⟩ := Notification.isSome_of_mayEnter hrules
    have hcases : ref = ⟨.trimesterId, .trimesters, .restrict⟩ ∨
        ref = ⟨.sectionId, .sections, .restrict⟩ := by
      simpa using (show ref ∈ [⟨.trimesterId, .trimesters, .restrict⟩,
        ⟨.sectionId, .sections, .restrict⟩] from href)
    rcases hcases with rfl | rfl
    · exact ⟨e.trimesterId, rfl, fun id hid => h.trimester (htrimester id hid)⟩
    · exact ⟨e.sectionId, rfl, fun id hid => h.sectionAt (hsection id hid)⟩

variable (hr : s.Readable)
include hr

theorem fits_spaceTime {e : SpaceTime} {slot : Int16} (hroom : e.roomType.hasSlot slot = true)
    (hfree : SpaceTime.isFree ctx ⟨e.roomNumber, e.dayOfWeek, slot⟩ = true) :
    (Row.spaceTime ⟨a, e.roomNumber, Named.name e.dayOfWeek, Named.name e.roomType, slot⟩).Fits a.id
      s where
  id_eq := rfl
  conditions c hc := by
    obtain rfl := List.mem_singleton.mp (show c ∈ [(.timeSlot, .between 1 6)] from hc)
    simp only [RoomType.hasSlot, Bool.and_eq_true, decide_eq_true_eq,
      Int16.le_iff_toInt_le] at hroom
    have hlast : e.roomType.lastSlot.toInt ≤ 6 := by cases e.roomType <;> decide
    exact Bool.and_eq_true_iff.mpr
      ⟨decide_eq_true hroom.1, decide_eq_true (Int.le_trans hroom.2 hlast)⟩
  natural columns hcolumns q hq hagrees := by
    obtain rfl := List.mem_singleton.mp
      (show columns ∈ [[.roomNumber, .dayOfWeek, .timeSlot]] from hcolumns)
    cases q
    case spaceTime x =>
      obtain ⟨hroom', hday, hslot'⟩ := Row.agrees_spaceTime_iff.mp hagrees
      obtain ⟨b, hb⟩ := Reader.spaceTimes.exists_read hr (mem_typed_iff.mpr hq)
      have hmem := (h.isWhole.spaceTimes b).mpr ⟨x, mem_typed_iff.mpr hq, rfl, hb⟩
      simp only [Reader.spaceTimes, SpaceTimeRow.toSpaceTime, bind_eq_ok_iff, pure_eq_ok_iff,
        ofName_eq_ok_iff] at hb
      obtain ⟨day, hday', _, -, rfl⟩ := hb
      obtain rfl : day = e.dayOfWeek := Named.name_injective (hday'.trans hday.symm)
      simp only [SpaceTime.isFree, Bool.not_eq_true', List.any_eq_false, Bool.not_eq_true,
        h.lookup_eq, Snapshot.lookup, List.mem_filter, beq_iff_eq] at hfree
      have hid := h.collides _ (hfree _ ⟨hmem, by simp [SpaceTime.slotKey, ← hroom', ← hslot']⟩)
      exact Row.isAt_iff.mpr ⟨rfl, congrArg some hid⟩
    all_goals cases (Row.agrees_iff.mp hagrees).1
  references ref href := absurd (show ref ∈ [] from href) List.not_mem_nil

variable (hs : s.Conforms)
include hs

theorem fits_subject {e : Subject} (hfields : Entity.violations (.subject e) = [])
    (hrules : e.mayEnter ctx = .ok ()) :
    (Row.subject (.of { e with audit := a })).Fits a.id s where
  id_eq := rfl
  conditions c hc := by
    obtain rfl := List.mem_singleton.mp (show c ∈ [(.credits, .between 1 5)] from hc)
    have hcredits := Constraint.of_ints ((Entity.violationsOf_eq_nil_iff.mp hfields).2
      ⟨"credits", fun s => Constraint.ints 1 5 s.credits.toInt⟩ (by simp [Subject.constraints]))
    exact Bool.and_eq_true_iff.mpr ⟨decide_eq_true hcredits.1, decide_eq_true hcredits.2⟩
  natural columns hcolumns q hq hagrees := by
    obtain rfl := List.mem_singleton.mp (show columns ∈ [[.codeName]] from hcolumns)
    cases q
    case subject x =>
      refine Reader.subjects.isAt_of_find? (p := (·.codeName == e.codeName)) (x := x) hs hr
        h.isWhole.subjects hcolumns (fun r b hb => ?_) (fun b hb => h.collides _ ?_)
        (mem_typed_iff.mpr hq) hagrees
      · obtain ⟨_, -, hb⟩ := bind_eq_ok_iff.mp hb
        obtain rfl := pure_eq_ok_iff.mp hb
        exact Row.agrees_subject_iff.trans (eq_comm.trans beq_iff_eq.symm)
      · exact require_not_any_eq_ok_iff.mp hrules b (h.lookup_eq ▸ hb)
    all_goals cases (Row.agrees_iff.mp hagrees).1
  references ref href := absurd (show ref ∈ [] from href) List.not_mem_nil

theorem fits_trimester {e : Trimester} (hfields : Entity.violations (.trimester e) = [])
    (hrules : e.mayEnter ctx = .ok ()) :
    (Row.trimester (.of { e with audit := a })).Fits a.id s where
  id_eq := rfl
  conditions c hc := by
    obtain rfl := List.mem_singleton.mp (show c ∈ [(.year, .atLeast 2003)] from hc)
    have hyear := Constraint.of_holds ((Entity.violationsOf_eq_nil_iff.mp hfields).2
      ⟨"year", fun t => Constraint.holds (.before Trimester.earliestYear)
        (Trimester.earliestYear ≤ t.year)⟩ (by simp [Trimester.constraints]))
    exact decide_eq_true (Int32.le_iff_toInt_le.mp (of_decide_eq_true hyear))
  natural columns hcolumns q hq hagrees := by
    obtain rfl := List.mem_singleton.mp (show columns ∈ [[.code]] from hcolumns)
    cases q
    case trimester x =>
      refine Reader.trimesters.isAt_of_find? (p := (·.code == e.code)) (x := x) hs hr
        h.isWhole.trimesters hcolumns (fun r b hb => ?_) (fun b hb => h.collides _ ?_)
        (mem_typed_iff.mpr hq) hagrees
      · obtain ⟨_, -, hb⟩ := bind_eq_ok_iff.mp hb
        obtain ⟨_, -, hb⟩ := bind_eq_ok_iff.mp hb
        obtain rfl := pure_eq_ok_iff.mp hb
        exact Row.agrees_trimester_iff.trans (eq_comm.trans beq_iff_eq.symm)
      · simp only [Trimester.mayEnter, check_bind_eq_ok_iff, require_not_any_eq_ok_iff] at hrules
        exact hrules.2.2.2 b (h.lookup_eq ▸ hb)
    all_goals cases (Row.agrees_iff.mp hagrees).1
  references ref href := absurd (show ref ∈ [] from href) List.not_mem_nil

theorem fits_student {e : Student} (hfields : Entity.violations (.student e) = [])
    (hrules : e.mayEnter ctx = .ok ()) :
    (Row.student (.of { e with audit := a })).Fits a.id s where
  id_eq := rfl
  conditions c hc := by
    obtain rfl := List.mem_singleton.mp (show c ∈ [(.universityId, .atLeast 0)] from hc)
    have hnumber := Constraint.of_holds ((Entity.violationsOf_eq_nil_iff.mp hfields).2
      ⟨"university_id", fun s => Constraint.holds .negative (0 ≤ s.universityId)⟩
      (by simp [Student.constraints]))
    exact decide_eq_true (Int64.le_iff_toInt_le.mp (of_decide_eq_true hnumber))
  natural columns hcolumns q hq hagrees := by
    obtain rfl := List.mem_singleton.mp (show columns ∈ [[.universityId]] from hcolumns)
    cases q
    case student x =>
      refine Reader.students.isAt_of_find? (p := (·.universityId == e.universityId)) (x := x) hs hr
        h.isWhole.students hcolumns (fun r b hb => ?_) (fun b hb => h.collides _ ?_)
        (mem_typed_iff.mpr hq) hagrees
      · obtain rfl := Except.ok.inj hb
        exact Row.agrees_student_iff.trans (eq_comm.trans beq_iff_eq.symm)
      · exact require_not_any_eq_ok_iff.mp hrules b (h.lookup_eq ▸ hb)
    all_goals cases (Row.agrees_iff.mp hagrees).1
  references ref href := absurd (show ref ∈ [] from href) List.not_mem_nil

theorem fits_course {e : Course} {old : Option CourseState} {student subject trimester : Uuid}
    {st : CourseState} (hfields : Entity.violations (.course e) = [])
    (hpasses : e.Passes old ctx student subject trimester st) :
    (Row.course ⟨a, student, subject, trimester, Named.name e.status, e.sectionId, e.grade⟩).Fits
      a.id s where
  id_eq := rfl
  conditions c hc := by
    obtain rfl := List.mem_singleton.mp (show c ∈ [(.grade, gradeCondition)] from hc)
    have hgrade : e.grade.bind Constraint.grade = none :=
      (Entity.violationsOf_eq_nil_iff.mp hfields).2
        ⟨"grade", fun c => c.grade.bind Constraint.grade⟩ (by simp [Course.constraints])
    change gradeCondition.admits (.ofOption .real e.grade) = true
    cases hg : e.grade with
    | none => rfl
    | some g => rw [hg] at hgrade; exact Constraint.of_reals hgrade
  natural columns hcolumns q hq hagrees := by
    obtain rfl := List.mem_singleton.mp
      (show columns ∈ [[.studentId, .subjectId, .trimesterId]] from hcolumns)
    cases q
    case course x =>
      refine Reader.courses.isAt_of_find? (p := fun c => c.studentId == some student &&
          c.subjectId == some subject && c.trimesterId == some trimester) (x := x) hs hr
        h.isWhole.courses hcolumns (fun r b hb => ?_) (fun b hb => h.collides _ ?_)
        (mem_typed_iff.mpr hq) hagrees
      · obtain ⟨_, -, hb⟩ := bind_eq_ok_iff.mp hb
        obtain rfl := pure_eq_ok_iff.mp hb
        simp only [Row.agrees_course_iff, RowType.toRow, Bool.and_eq_true, beq_iff_eq,
          Option.some.injEq, and_assoc]
        constructor <;> rintro ⟨rfl, rfl, rfl⟩ <;> exact ⟨rfl, rfl, rfl⟩
      · exact hpasses.free b (h.lookup_eq ▸ hb)
    all_goals cases (Row.agrees_iff.mp hagrees).1
  references ref href := by
    have hcases : ref = ⟨.studentId, .students, .restrict⟩ ∨
        ref = ⟨.subjectId, .subjects, .restrict⟩ ∨ ref = ⟨.trimesterId, .trimesters, .restrict⟩ ∨
          ref = ⟨.sectionId, .sections, .restrict⟩ := by
      simpa using (show ref ∈ [⟨.studentId, .students, .restrict⟩,
        ⟨.subjectId, .subjects, .restrict⟩, ⟨.trimesterId, .trimesters, .restrict⟩,
        ⟨.sectionId, .sections, .restrict⟩] from href)
    rcases hcases with rfl | rfl | rfl | rfl
    · exact ⟨some student, rfl, by simpa using h.student hpasses.studentStored⟩
    · exact ⟨some subject, rfl, by simpa using h.subject hpasses.subjectStored⟩
    · exact ⟨some trimester, rfl, by simpa using h.trimester hpasses.trimesterStored⟩
    · refine ⟨e.sectionId, rfl, fun id hid => ?_⟩
      obtain ⟨sec, hsec, -⟩ := hpasses.sectionAt hid
      exact h.sectionAt (by rw [hsec]; rfl)

omit hr hs in
theorem exists_fits_of_mayEnter {e : Prerequisite}
    (hfields : Entity.violations (.prerequisite e) = []) (hrules : e.mayEnter ctx = .ok ()) :
    ∃ row, Row.ofEntity (.prerequisite { e with audit := a }) = .ok row ∧ row.Fits a.id s := by
  obtain ⟨subject, required, hpasses⟩ := Prerequisite.passes_of_mayEnter hrules
  refine ⟨_, ofEntity_prerequisite hpasses.subjectId hpasses.requiredSubjectId, ?_⟩
  refine fits_prerequisite (e := e) hfields (h.subject hpasses.subjectStored)
    (h.subject hpasses.requiredStored) ?_
  rintro x hx rfl rfl
  have hmem : x.toPrerequisite ∈ ctx.lookup.prerequisitesOf x.subjectId := by
    simp only [Lookup.prerequisitesOf, h.lookup_eq, Snapshot.lookup, h.isWhole.prerequisites,
      selectPrerequisites, List.mem_filter, List.mem_map]
    exact ⟨⟨x, ⟨hx, trivial⟩, rfl⟩, decide_eq_true rfl⟩
  exact h.collides _ (hpasses.unjoined _ hmem rfl)

omit h hr in
theorem exists_fits_of_mayReplace {e old : Prerequisite}
    (hfields : Entity.violations (.prerequisite e) = [])
    (hold : s.Holds .prerequisite a.id (.prerequisite old)) (hrules : e.mayReplace old = .ok ()) :
    ∃ row, Row.ofEntity (.prerequisite { e with audit := a }) = .ok row ∧ row.Fits a.id s := by
  obtain ⟨q, hq, hat, hentity⟩ := hold
  obtain ⟨p, rfl, hp⟩ := prerequisite_of_toEntity? hentity rfl
  obtain rfl := Entity.prerequisite.inj hp
  have hends : e.edge = some (p.subjectId, p.requiredSubjectId) :=
    beq_iff_eq.mp (require_eq_ok_iff.mp hrules)
  obtain ⟨hsubject, hrequired⟩ := Prerequisite.edge_eq_some_iff.mp hends
  refine ⟨_, ofEntity_prerequisite hsubject hrequired, ?_⟩
  have hid : p.audit.id = a.id := Option.some.inj (Row.isAt_iff.mp hat).2
  have href : ⟨.subjectId, .subjects, .restrict⟩ ∈ Schema.migrated.references .prerequisites := by
    decide
  have href' : ⟨.requiredSubjectId, .subjects, .restrict⟩ ∈
      Schema.migrated.references .prerequisites := by decide
  refine fits_prerequisite (e := e) hfields (hs.exists_isAt hq href rfl)
    (hs.exists_isAt hq href' rfl) fun x hx hsame hsame' => ?_
  have hkey : [.subjectId, .requiredSubjectId] ∈ keys .prerequisites := by decide
  have hpx : Row.prerequisite p = Row.prerequisite x := hs.eq_of_agrees hq (mem_typed_iff.mp hx)
    hkey (Row.agrees_prerequisite_iff.mpr ⟨hsame.symm, hsame'.symm⟩)
  rw [← Row.prerequisite.inj hpx, hid]

/-- **What the rules accept, the schema allows**: an accepted entity, new or a revision of what is
stored, has a row, under whatever audit block, and the row fits. -/
theorem exists_fits {e : Entity} {old : Option Entity} (hfields : e.violations = [])
    (hrules : e.mayStand old ctx = .ok ()) (hheld : ∀ o ∈ old, s.Holds e.kind a.id o) :
    ∃ row, Row.ofEntity (e.withAudit a) = .ok row ∧ row.Fits a.id s := by
  have haccepted := Entity.accepted_of_mayStand hrules
  have henters := Entity.mayEnter_of_accepted haccepted
  cases e
  case subject e => exact ⟨_, rfl, fits_subject h hr hs hfields (henters nofun nofun)⟩
  case trimester e => exact ⟨_, rfl, fits_trimester h hr hs hfields (henters nofun nofun)⟩
  case student e => exact ⟨_, rfl, fits_student h hr hs hfields (henters nofun nofun)⟩
  case faculty e => exact ⟨_, rfl, fits_faculty⟩
  case notification e => exact ⟨_, rfl, fits_notification h (henters nofun nofun)⟩
  case spaceTime e =>
    obtain ⟨slot, hslot, hroom, hfree⟩ := SpaceTime.exists_slot (henters nofun nofun)
    exact ⟨_, ofEntity_spaceTime hslot, fits_spaceTime h hr hroom hfree⟩
  case «section» e =>
    obtain ⟨subject, trimester, hpasses⟩ := Section.passes_of_mayEnter (henters nofun nofun)
    exact ⟨_, ofEntity_section hpasses.subjectId hpasses.trimesterId,
      fits_section (e := e) h hfields hpasses⟩
  case course e =>
    obtain ⟨_, hcheck⟩ := Course.check_of_accepted haccepted
    obtain ⟨student, subject, trimester, st, hpasses⟩ := Course.passes_of_check hcheck
    exact ⟨_, ofEntity_course hpasses.studentId hpasses.subjectId hpasses.trimesterId,
      fits_course (e := e) h hr hs hfields hpasses⟩
  case prerequisite e =>
    cases old with
    | none => exact exists_fits_of_mayEnter h hfields hrules
    | some old =>
      have hold := hheld old rfl
      have hkind := hold.matches.1
      cases old <;> simp only [Entity.kind, reduceCtorEq] at hkind
      exact exists_fits_of_mayReplace hs hfields hold hrules

end Fits

end Enrollment.Store
