import Enrollment.Proofs.Outcome
import Enrollment.Review

/-! # What an accepted candidate has passed

* `reviewNew_eq_ok_iff`, `reviewRevision_eq_ok_iff`: a verdict is favourable iff each check is.
* `Section.passes_of_mayEnter`, `Course.passes_of_check`: what the rules have found of an accepted
  section or course.
* `Prerequisite.mayEnter_eq`: when only a cycle can stand against a prerequisite.
* `Section.counter_of_mayReplace`: an accepted revision of a section leaves the counter as it is. -/

namespace Enrollment

namespace Entity

variable {e old : Entity} {l : Lookup} {now : Instant}

theorem reviewNew_eq_ok_iff : e.reviewNew l now = .ok () ↔
    e.violations = [] ∧ e.mayEnter ⟨l, now, none⟩ = .ok () := by
  simp only [reviewNew, check_bind_eq_ok_iff, Verdict.ofViolations_eq_ok_iff]

theorem checkRevision_eq_ok_iff : e.checkRevision old = .ok () ↔
    old.kind = e.kind ∧ (audit old).sameOrigin (audit e) = true ∧
      (audit old).version = (audit e).version := by
  simp only [checkRevision, check_bind_eq_ok_iff, require_eq_ok_iff, beq_iff_eq]

theorem reviewRevision_eq_ok_iff : e.reviewRevision old l now = .ok () ↔
    (old.kind = e.kind ∧ (audit old).sameOrigin (audit e) = true ∧
      (audit old).version = (audit e).version) ∧
    e.violations = [] ∧ e.mayReplace old ⟨l, now, some (audit old).id⟩ = .ok () := by
  simp only [reviewRevision, check_bind_eq_ok_iff, checkRevision_eq_ok_iff,
    Verdict.ofViolations_eq_ok_iff]

theorem violationsOf_eq_nil_iff {α : Type} [Audited α] {cs : List (Constraint α)} {a : α} :
    violationsOf cs a = [] ↔
      (∀ c ∈ Audit.constraints, c.defect (audit a) = none) ∧ ∀ c ∈ cs, c.defect a = none := by
  rw [violationsOf, List.append_eq_nil_iff, Constraint.violations_eq_nil_iff,
    Constraint.violations_eq_nil_iff]

end Entity

theorem Constraint.of_holds {defect : Defect} {b : Bool} (h : Constraint.holds defect b = none) :
    b = true := by
  cases b
  · cases h
  · rfl

theorem Constraint.of_ints {low high n : Int} (h : Constraint.ints low high n = none) :
    low ≤ n ∧ n ≤ high := by
  unfold ints at h
  by_contra hout
  rw [if_neg hout] at h
  cases h

theorem Constraint.of_reals {low high x : Binary32} (h : Constraint.reals low high x = none) :
    (Binary32.le low x && Binary32.le x high) = true := by
  unfold reals at h
  by_contra hout
  rw [if_neg hout] at h
  cases h

theorem Constraint.exists_of_present {α β : Type} {cs : List (Constraint α)} {a : α}
    (field : String) (get : α → Option β) (h : ∀ c ∈ cs, c.defect a = none)
    (hc : ⟨field, fun a => Constraint.present (get a)⟩ ∈ cs) : ∃ b, get a = some b := by
  have hpresent := h _ hc
  cases hget : get a with
  | none => simp [Constraint.present, hget] at hpresent
  | some b => exact ⟨b, rfl⟩

theorem require_not_any_eq_ok_iff {α : Type} {found : Option α} {p : α → Bool}
    {refusal : Refusal} :
    require (!found.any p) refusal = .ok () ↔ ∀ a ∈ found, p a = false := by
  rw [require_eq_ok_iff, Bool.not_eq_true']
  cases found <;> simp

/-! ### Sections -/

namespace Section

variable {s old : Section} {ctx : Context}

theorem checkSlots_eq_ok_iff {l : Lookup} {seen ids : List Uuid} :
    checkSlots l seen ids = .ok () ↔
      ids.Nodup ∧ ∀ id ∈ ids, id ∉ seen ∧ (l.spaceTime id).isSome = true := by
  induction ids generalizing seen with
  | nil => simp [checkSlots]
  | cons id ids ih =>
    simp only [checkSlots, check_bind_eq_ok_iff, require_eq_ok_iff, ih, List.nodup_cons,
      List.mem_cons, Bool.not_eq_true', List.contains_eq_mem, decide_eq_false_iff_not]
    constructor
    · rintro ⟨hseen, hstored, hnodup, h⟩
      refine ⟨⟨fun hid => (h id hid).1 (.inl rfl), hnodup⟩, ?_⟩
      rintro x (rfl | hx)
      · exact ⟨hseen, hstored⟩
      · exact ⟨fun hxs => (h x hx).1 (.inr hxs), (h x hx).2⟩
    · rintro ⟨⟨hid, hnodup⟩, h⟩
      obtain ⟨hseen, hstored⟩ := h id (.inl rfl)
      have h : ∀ x ∈ ids, x ∉ seen ∧ (l.spaceTime x).isSome = true := fun x hx => h x (.inr hx)
      refine ⟨hseen, hstored, hnodup, fun x hx => ⟨?_, (h x hx).2⟩⟩
      rintro (rfl | hxs)
      · exact hid hx
      · exact (h x hx).1 hxs

theorem exists_of_checkTeachers {l : Lookup} {ids : List Uuid} (h : checkTeachers l ids = .ok ()) :
    ∀ id ∈ ids, ∃ f, l.faculty id = some f ∧ f.canTeach = true := by
  induction ids with
  | nil => exact fun _ hid => absurd hid List.not_mem_nil
  | cons id ids ih =>
    obtain ⟨hteacher, h⟩ := check_bind_eq_ok_iff.mp h
    refine List.forall_mem_cons.mpr ⟨?_, ih h⟩
    unfold checkTeacher at hteacher
    cases hf : l.faculty id with
    | none => rw [hf] at hteacher; cases hteacher
    | some f => rw [hf] at hteacher; exact ⟨f, rfl, require_eq_ok_iff.mp hteacher⟩

/-- What the rules have found of a section of a subject in a trimester. -/
structure Passes (s : Section) (ctx : Context) (subject trimester : Uuid) : Prop where
  subjectId : s.subjectId = some subject
  trimesterId : s.trimesterId = some trimester
  capacity : s.currentCapacity ≤ s.maxCapacity
  subjectStored : (ctx.lookup.subject subject).isSome = true
  trimesterStored : (ctx.lookup.trimester trimester).isSome = true
  slotOnce : s.spaceTimeIds.Nodup
  slots : ∀ id ∈ s.spaceTimeIds, (ctx.lookup.spaceTime id).isSome = true
  teachers : ∀ id ∈ s.teacherIds, ∃ f, ctx.lookup.faculty id = some f ∧ f.canTeach = true
  free : s.booked ctx trimester = none

theorem passes_of_mayEnter (h : s.mayEnter ctx = .ok ()) :
    ∃ subject trimester, s.Passes ctx subject trimester := by
  unfold mayEnter at h
  obtain ⟨subject, hsubject, h⟩ := bind_eq_ok_iff.mp h
  obtain ⟨trimester, htrimester, h⟩ := bind_eq_ok_iff.mp h
  simp only [check_bind_eq_ok_iff, require_eq_ok_iff, decide_eq_true_eq] at h
  obtain ⟨hcapacity, hsubject', htrimester', hslots, hteachers, h⟩ := h
  obtain ⟨honce, hslots⟩ := checkSlots_eq_ok_iff.mp hslots
  have hfree : s.booked ctx trimester = none := by
    split at h
    · cases h
    · assumption
  exact ⟨subject, trimester, present_eq_ok_iff.mp hsubject, present_eq_ok_iff.mp htrimester,
    hcapacity, hsubject', htrimester', honce, fun id hid => (hslots id hid).2,
    exists_of_checkTeachers hteachers, hfree⟩

theorem capacity_of_mayEnter (h : s.mayEnter ctx = .ok ()) :
    s.currentCapacity ≤ s.maxCapacity := by
  obtain ⟨_, _, h⟩ := passes_of_mayEnter h
  exact h.capacity

theorem bounds_of_fields (h : Entity.violations (.section s) = []) :
    0 < s.maxCapacity ∧ 0 ≤ s.currentCapacity ∧ s.spaceTimeIds ≠ [] := by
  have hfields := (Entity.violationsOf_eq_nil_iff.mp h).2
  have hmax := Constraint.of_holds (hfields
    ⟨"max_capacity", fun s => Constraint.holds .notPositive (0 < s.maxCapacity)⟩
    (by simp [constraints]))
  have hcurrent := Constraint.of_holds (hfields
    ⟨"current_capacity", fun s => Constraint.holds .negative (0 ≤ s.currentCapacity)⟩
    (by simp [constraints]))
  have hslot := Constraint.of_holds (hfields
    ⟨"space_times", fun s => Constraint.holds .noSlot (!s.spaceTimeIds.isEmpty)⟩
    (by simp [constraints]))
  exact ⟨of_decide_eq_true hmax, of_decide_eq_true hcurrent, by simpa using hslot⟩

theorem counter_of_mayReplace (h : s.mayReplace old ctx = .ok ()) :
    s.currentCapacity = old.currentCapacity ∧ s.mayEnter ctx = .ok () := by
  simpa only [mayReplace, check_bind_eq_ok_iff, require_eq_ok_iff, beq_iff_eq] using h

end Section

/-! ### Courses -/

namespace Course

variable {c : Course} {ctx : Context} {old : Option CourseState}

/-- What the rules have found of a course of a student in a subject and a trimester, the state that
its fields make and the one that it was in before. -/
structure Passes (c : Course) (old : Option CourseState) (ctx : Context)
    (student subject trimester : Uuid) (st : CourseState) : Prop where
  studentId : c.studentId = some student
  subjectId : c.subjectId = some subject
  trimesterId : c.trimesterId = some trimester
  state : c.state = .ok st
  studentStored : (ctx.lookup.student student).isSome = true
  subjectStored : (ctx.lookup.subject subject).isSome = true
  trimesterStored : (ctx.lookup.trimester trimester).isSome = true
  offered : ∀ id ∈ c.sectionId, checkSection ctx.lookup subject trimester id = .ok ()
  free : ∀ other ∈ ctx.lookup.courseFor student subject trimester,
    ctx.collides other.audit.id = false
  seat : checkSeat ctx.lookup (.between old st) = .ok ()

theorem passes_of_check (h : c.check old ctx = .ok ()) :
    ∃ student subject trimester st, c.Passes old ctx student subject trimester st := by
  unfold check at h
  obtain ⟨student, hstudent, h⟩ := bind_eq_ok_iff.mp h
  obtain ⟨subject, hsubject, h⟩ := bind_eq_ok_iff.mp h
  obtain ⟨trimester, htrimester, h⟩ := bind_eq_ok_iff.mp h
  obtain ⟨st, hst, h⟩ := bind_eq_ok_iff.mp h
  have hst := mapError_eq_ok_iff.mp hst
  obtain ⟨-, hsame, -⟩ := CourseState.of_eq_ok_iff.mp hst
  simp only [check_bind_eq_ok_iff, require_eq_ok_iff] at h
  obtain ⟨hstudent', hsubject', htrimester', h⟩ := h
  have hsection : (∀ id ∈ c.sectionId, checkSection ctx.lookup subject trimester id = .ok ()) ∧
      ((ctx.lookup.courseFor student subject trimester).any fun other =>
        ctx.collides other.audit.id) = false ∧
      checkSeat ctx.lookup (.between old st) = .ok () := by
    rw [← hsame]
    cases hid : st.section? with
    | some id =>
      simp only [hid, check_bind_eq_ok_iff, require_eq_ok_iff, Bool.not_eq_true'] at h
      refine ⟨fun x hx => ?_, h.2⟩
      obtain rfl := Option.some.inj hx
      exact h.1
    | none =>
      simp only [hid, check_bind_eq_ok_iff, require_eq_ok_iff, Bool.not_eq_true'] at h
      exact ⟨fun _ ho => absurd ho (Option.not_mem_none _), h.2⟩
  obtain ⟨hoffered, hfree, hseat⟩ := hsection
  refine ⟨student, subject, trimester, st, present_eq_ok_iff.mp hstudent,
    present_eq_ok_iff.mp hsubject, present_eq_ok_iff.mp htrimester, hst, hstudent', hsubject',
    htrimester', hoffered, fun other hother => ?_, hseat⟩
  rw [Option.mem_def.mp hother] at hfree
  exact hfree

theorem Passes.sectionAt {student subject trimester id : Uuid} {st : CourseState}
    (h : c.Passes old ctx student subject trimester st) (hid : c.sectionId = some id) :
    ∃ sec, ctx.lookup.sectionAt id = some sec ∧ sec.trimesterId = some trimester ∧
      sec.subjectId = some subject := by
  have hoffered := h.offered id hid
  unfold checkSection at hoffered
  split at hoffered
  · cases hoffered
  · rename_i sec hsec
    simp only [check_bind_eq_ok_iff, require_eq_ok_iff, beq_iff_eq] at hoffered
    exact ⟨sec, hsec, hoffered⟩

theorem check_of_accepted (h : Entity.mayEnter (.course c) ctx = .ok () ∨
    ∃ old, Entity.mayReplace (.course c) old ctx = .ok ()) : ∃ old, c.check old ctx = .ok () := by
  rcases h with h | ⟨old, h⟩
  · exact ⟨none, h⟩
  · cases old
    case course old => exact ⟨_, h⟩
    all_goals exact ⟨none, h⟩

end Course

/-! ### Other kinds -/

/-- What the rules have found of a new prerequisite with two ends. -/
structure Prerequisite.Passes (p : Prerequisite) (ctx : Context) (subject required : Uuid) :
    Prop where
  subjectId : p.subjectId = some subject
  requiredSubjectId : p.requiredSubjectId = some required
  subjectStored : (ctx.lookup.subject subject).isSome = true
  requiredStored : (ctx.lookup.subject required).isSome = true
  unjoined : ∀ other ∈ ctx.lookup.prerequisitesOf subject,
    other.requiredSubjectId = some required → ctx.collides other.audit.id = false
  closing : Prerequisite.closing ctx.lookup subject required = none

theorem Prerequisite.Passes.edge_eq {p : Prerequisite} {ctx : Context} {subject required : Uuid}
    (h : p.Passes ctx subject required) : p.edge = some (subject, required) :=
  edge_eq_some_iff.mpr ⟨h.subjectId, h.requiredSubjectId⟩

theorem Prerequisite.passes_of_mayEnter {p : Prerequisite} {ctx : Context}
    (h : p.mayEnter ctx = .ok ()) : ∃ subject required, p.Passes ctx subject required := by
  unfold mayEnter at h
  obtain ⟨subject, hsubject, h⟩ := bind_eq_ok_iff.mp h
  obtain ⟨required, hrequired, h⟩ := bind_eq_ok_iff.mp h
  simp only [check_bind_eq_ok_iff, require_eq_ok_iff, Bool.not_eq_true', List.any_eq_false,
    Bool.and_eq_true, beq_iff_eq, not_and, Bool.not_eq_true] at h
  obtain ⟨-, hsubject', hrequired', hothers, h⟩ := h
  have hclosing : closing ctx.lookup subject required = none := by
    split at h
    · cases h
    · assumption
  exact ⟨subject, required, present_eq_ok_iff.mp hsubject, present_eq_ok_iff.mp hrequired,
    hsubject', hrequired', hothers, hclosing⟩

theorem Prerequisite.exists_edge {p : Prerequisite} (h : ∀ c ∈ constraints, c.defect p = none) :
    ∃ a b, p.edge = some (a, b) := by
  obtain ⟨a, ha⟩ := Constraint.exists_of_present "subject" subjectId h (by simp [constraints])
  obtain ⟨b, hb⟩ := Constraint.exists_of_present "required_subject" requiredSubjectId h
    (by simp [constraints])
  exact ⟨a, b, edge_eq_some_iff.mpr ⟨ha, hb⟩⟩

theorem Section.exists_references {s : Section} (h : ∀ c ∈ constraints, c.defect s = none) :
    (∃ subject, s.subjectId = some subject) ∧ ∃ trimester, s.trimesterId = some trimester :=
  ⟨Constraint.exists_of_present "subject" subjectId h (by simp [constraints]),
    Constraint.exists_of_present "trimester" trimesterId h (by simp [constraints])⟩

theorem SpaceTime.exists_slot_of_fields {t : SpaceTime} (h : ∀ c ∈ constraints, c.defect t = none) :
    ∃ slot, t.timeSlot = some slot :=
  Constraint.exists_of_present "time_slot" timeSlot h (by simp [constraints])

theorem Course.exists_references {c : Course} (h : ∀ d ∈ constraints, d.defect c = none) :
    (∃ student, c.studentId = some student) ∧ (∃ subject, c.subjectId = some subject) ∧
      ∃ trimester, c.trimesterId = some trimester :=
  ⟨Constraint.exists_of_present "student" studentId h (by simp [constraints]),
    Constraint.exists_of_present "subject" subjectId h (by simp [constraints]),
    Constraint.exists_of_present "trimester" trimesterId h (by simp [constraints])⟩

/-- Only a cycle stands against a prerequisite of two different stored subjects that no other
joins. -/
theorem Prerequisite.mayEnter_eq {p : Prerequisite} {ctx : Context} {a b : Uuid}
    (hedge : p.edge = some (a, b)) (hne : a ≠ b) (ha : (ctx.lookup.subject a).isSome = true)
    (hb : (ctx.lookup.subject b).isSome = true)
    (hunjoined : ∀ q ∈ ctx.lookup.prerequisites, q.edge = some (a, b) →
      ctx.collides q.audit.id = false) :
    p.mayEnter ctx = match Prerequisite.closing ctx.lookup a b with
      | some cycle => .error (.rule (.noCycle (cycle.map ctx.lookup.describe)))
      | none => .ok () := by
  obtain ⟨hsubject, hrequired⟩ := edge_eq_some_iff.mp hedge
  have hnone : ((ctx.lookup.prerequisitesOf a).any fun other =>
      other.requiredSubjectId == some b && ctx.collides other.audit.id) = false := by
    simp only [List.any_eq_false, Bool.and_eq_true, beq_iff_eq, not_and, Bool.not_eq_true,
      Lookup.prerequisitesOf, List.mem_filter, decide_eq_true_eq]
    exact fun q ⟨hq, hqa⟩ hqb => hunjoined q hq (edge_eq_some_iff.mpr ⟨hqa, hqb⟩)
  cases hclosing : closing ctx.lookup a b <;>
    simp only [mayEnter, hsubject, hrequired, present, ok_bind, require, bne_iff_ne.mpr hne, ha, hb,
      hnone, Bool.not_false, if_true, hclosing]

theorem Notification.isSome_of_mayEnter {n : Notification} {ctx : Context}
    (h : n.mayEnter ctx = .ok ()) :
    (∀ id ∈ n.trimesterId, (ctx.lookup.trimester id).isSome = true) ∧
      ∀ id ∈ n.sectionId, (ctx.lookup.sectionAt id).isSome = true := by
  obtain ⟨target, htarget, h⟩ := bind_eq_ok_iff.mp h
  obtain ⟨-, hrelations⟩ := Target.of_eq_ok_iff.mp (mapError_eq_ok_iff.mp htarget)
  have hstored := require_eq_ok_iff.mp h
  simp only [Target.relations] at hrelations
  have hnone {id : Uuid} : id ∉ (none : Option Uuid) := Option.not_mem_none id
  cases target <;> simp only [Prod.mk.injEq] at hrelations <;>
    rw [← hrelations.1, ← hrelations.2.1]
  case global => exact ⟨fun _ hid => absurd hid hnone, fun _ hid => absurd hid hnone⟩
  case user => exact ⟨fun _ hid => absurd hid hnone, fun _ hid => absurd hid hnone⟩
  case trimester id =>
    exact ⟨fun _ hid => Option.some.inj hid ▸ hstored, fun _ hid => absurd hid hnone⟩
  case «section» id =>
    exact ⟨fun _ hid => absurd hid hnone, fun _ hid => Option.some.inj hid ▸ hstored⟩

theorem Notification.exists_user_of_mayEnter {n : Notification} {ctx : Context}
    (h : n.mayEnter ctx = .ok ()) (hscope : n.scope = .user) : ∃ key, n.targetUserId = some key ∧
      ((ctx.lookup.student key).isSome = true ∨ (ctx.lookup.faculty key).isSome = true) := by
  obtain ⟨target, htarget, h⟩ := bind_eq_ok_iff.mp h
  obtain ⟨hsame, hrelations⟩ := Target.of_eq_ok_iff.mp (mapError_eq_ok_iff.mp htarget)
  rw [hscope] at hsame
  cases target <;> simp only [Target.scope, reduceCtorEq] at hsame
  rename_i key
  have huser : n.targetUserId = some key := (congrArg (·.2.2) hrelations).symm
  have hstored := require_eq_ok_iff.mp h
  rw [Target.isStored, Bool.or_eq_true] at hstored
  exact ⟨key, huser, hstored⟩

theorem SpaceTime.exists_slot {t : SpaceTime} {ctx : Context} (h : t.mayEnter ctx = .ok ()) :
    ∃ slot, t.timeSlot = some slot ∧ t.roomType.hasSlot slot = true ∧
      isFree ctx ⟨t.roomNumber, t.dayOfWeek, slot⟩ = true := by
  obtain ⟨slot, hslot, h⟩ := bind_eq_ok_iff.mp h
  have hslot := present_eq_ok_iff.mp hslot
  simp only [slotKey, hslot, Option.map_some, check_bind_eq_ok_iff, require_eq_ok_iff] at h
  exact ⟨slot, hslot, h⟩

/-- The rules of its kind for a candidate, which is new or replaces another. -/
def Entity.mayStand (e : Entity) (old : Option Entity) (ctx : Context) : Verdict :=
  match old with
  | none => e.mayEnter ctx
  | some old => e.mayReplace old ctx

/-- What has passed the rules, for a new row or for a revision, may enter, if all of its fields may
change and it holds no seat. -/
theorem Entity.mayEnter_of_accepted {e : Entity} {ctx : Context}
    (h : e.mayEnter ctx = .ok () ∨ ∃ old, e.mayReplace old ctx = .ok ())
    (hp : e.kind ≠ .prerequisite) (hc : e.kind ≠ .course) : e.mayEnter ctx = .ok () := by
  rcases h with h | ⟨old, h⟩
  · exact h
  · cases e
    case prerequisite => exact absurd rfl hp
    case course => exact absurd rfl hc
    case «section» sec =>
      cases old
      case «section» old => exact (Section.counter_of_mayReplace h).2
      all_goals exact h
    case notification n =>
      cases old
      case notification old => exact (check_bind_eq_ok_iff.mp h).2
      all_goals exact h
    all_goals exact h

theorem Entity.accepted_of_mayStand {e : Entity} {old : Option Entity} {ctx : Context}
    (h : e.mayStand old ctx = .ok ()) :
    e.mayEnter ctx = .ok () ∨ ∃ old, e.mayReplace old ctx = .ok () := by
  cases old with
  | none => exact .inl h
  | some old => exact .inr ⟨old, h⟩

end Enrollment
