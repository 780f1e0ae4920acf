import Enrollment.Proofs.Registrar.Occupancy
import Enrollment.Proofs.Registrar.ReadBack

/-! # The laws of the kinds

What is written has been reviewed as a whole, but a stored row changes without a review where a
course moves seats, and a revised requirement is not held against the rules for a new one. The laws
that concern one row alone are kept all the same, and each row is read as something that obeys them.

* `Entity.keepsLaws_of_mayEnter`: what may enter keeps the laws of its kind.
* `Writes.lawful`: so does whatever is written.
* `Stays.lawful`: and what is recounted.
* `stored_lawful`: every row that is stored in a run. -/

namespace Enrollment

theorem Target.present_of_ok {scope : Scope} {trimester sec user : Option Uuid} {t : Target}
    (h : Target.of scope trimester sec user = .ok t) :
    Target.present trimester sec user = scope.relation.toList := by
  obtain ⟨rfl, hrelations⟩ := Target.of_eq_ok_iff.mp h
  cases t <;> cases hrelations <;> rfl

namespace Entity

variable {e : Entity}

/-! ### Laws -/

/-- The violated constraints of a thing itself, its audit block left aside. -/
def ownViolations : Entity → List Violation
  | subject e => Constraint.violations Subject.constraints e
  | prerequisite e => Constraint.violations Prerequisite.constraints e
  | trimester e => Constraint.violations Trimester.constraints e
  | .section e => Constraint.violations Section.constraints e
  | spaceTime e => Constraint.violations SpaceTime.constraints e
  | course e => Constraint.violations Course.constraints e
  | notification e => Constraint.violations Notification.constraints e
  | student e => Constraint.violations Student.constraints e
  | faculty e => Constraint.violations Faculty.constraints e

/-- What the rules of a kind ask of one thing alone: the fields of a course make a state, a
notification has the relation that its scope calls for and no other, the code of a trimester is that
of its year and season and its calendar is in order, the room of a space time has its slot, a
section books nothing twice and counts no more seats than it has room for, a prerequisite joins two
different subjects, and a member of the faculty is no student. -/
def KeepsLaws : Entity → Prop
  | subject _ | student _ => True
  | prerequisite p => ∃ subject required, p.edge = some (subject, required) ∧ subject ≠ required
  | trimester t => t.code = t.expectedCode.value ∧ t.calendar.isChronological = true
  | .section s => s.spaceTimeIds.Nodup ∧ s.currentCapacity ≤ s.maxCapacity
  | spaceTime t => ∃ slot, t.timeSlot = some slot ∧ t.roomType.hasSlot slot = true
  | course c => ∃ st, c.state = .ok st
  | notification n =>
    Target.present n.trimesterId n.sectionId n.targetUserId = n.scope.relation.toList
  | faculty f => f.userType ≠ .student

/-- A thing whose fields are as they have to be, and that keeps the laws of its kind. -/
structure Lawful (e : Entity) : Prop where
  fields : e.ownViolations = []
  laws : e.KeepsLaws

theorem ownViolations_of_violations (h : e.violations = []) : e.ownViolations = [] := by
  cases e <;> exact (List.append_eq_nil_iff.mp h).2

theorem ownViolations_prerequisite_eq_nil_iff {p : Prerequisite} :
    ownViolations (.prerequisite p) = [] ↔
      p.subjectId ≠ none ∧ p.requiredSubjectId ≠ none ∧ Grade.isValid p.minGrade = true := by
  rw [ownViolations, Constraint.violations_eq_nil_iff]
  simp [Prerequisite.constraints, Constraint.present, Constraint.grade, Constraint.reals,
    Grade.isValid]

theorem ownViolations_course_eq_nil_iff {c : Course} : ownViolations (.course c) = [] ↔
    c.studentId ≠ none ∧ c.subjectId ≠ none ∧ c.trimesterId ≠ none ∧
      ∀ g ∈ c.grade, Grade.isValid g = true := by
  rw [ownViolations, Constraint.violations_eq_nil_iff]
  simp [Course.constraints, Constraint.present, Constraint.grade, Constraint.reals, Grade.isValid,
    Option.bind_eq_none_iff]

theorem ownViolations_section_eq_nil_iff {s : Section} : ownViolations (.section s) = [] ↔
    s.subjectId ≠ none ∧ s.trimesterId ≠ none ∧ 0 < s.maxCapacity ∧ 0 ≤ s.currentCapacity ∧
      s.spaceTimeIds ≠ [] := by
  rw [ownViolations, Constraint.violations_eq_nil_iff]
  simp [Section.constraints, Constraint.present, Constraint.holds]

theorem Lawful.withAudit (h : e.Lawful) (a : Audit) : (e.withAudit a).Lawful := by
  cases e <;> exact ⟨h.fields, h.laws⟩

theorem Lawful.settled (h : e.Lawful) : e.settled.Lawful := by
  cases e
  case prerequisite p =>
    obtain ⟨hsubject, hrequired, hgrade⟩ := ownViolations_prerequisite_eq_nil_iff.mp h.fields
    have hgrade' : Grade.isValid p.minGrade.unsignedZero = true := by
      rw [isValid_unsignedZero, hgrade]
    exact ⟨ownViolations_prerequisite_eq_nil_iff.mpr ⟨hsubject, hrequired, hgrade'⟩, h.laws⟩
  case course c =>
    obtain ⟨hstudent, hsubject, htrimester, hgrade⟩ :=
      ownViolations_course_eq_nil_iff.mp h.fields
    have hstate : HasState (.course c) := h.laws
    refine ⟨ownViolations_course_eq_nil_iff.mpr
      ⟨hstudent, hsubject, htrimester, fun g hg => ?_⟩, hstate.unsignedZero⟩
    obtain ⟨x, hx, rfl⟩ := Option.map_eq_some_iff.mp hg
    rw [isValid_unsignedZero, hgrade x hx]
  all_goals exact h

/-! ### Rules -/

/-- **What may enter keeps the laws of its kind.** -/
theorem keepsLaws_of_mayEnter {ctx : Context} (h : e.mayEnter ctx = .ok ()) : e.KeepsLaws := by
  cases e
  case subject => trivial
  case student => trivial
  case prerequisite p =>
    obtain ⟨subject, required, hpasses⟩ := Prerequisite.passes_of_mayEnter h
    -- a chain of no arrow leads from a subject back to it
    have hne : subject ≠ required := by
      rintro rfl
      exact Prerequisite.closing_eq_none_iff.mp hpasses.closing .refl
    exact ⟨subject, required, hpasses.edge_eq, hne⟩
  case trimester t =>
    simp only [mayEnter, Trimester.mayEnter, check_bind_eq_ok_iff, require_eq_ok_iff,
      beq_iff_eq] at h
    exact ⟨h.1, h.2.1⟩
  case «section» s =>
    obtain ⟨_, _, hpasses⟩ := Section.passes_of_mayEnter h
    exact ⟨hpasses.slotOnce, hpasses.capacity⟩
  case spaceTime t =>
    obtain ⟨slot, hslot, hroom, -⟩ := SpaceTime.exists_slot h
    exact ⟨slot, hslot, hroom⟩
  case course c =>
    obtain ⟨_, _, _, st, hpasses⟩ := Course.passes_of_check h
    exact ⟨st, hpasses.state⟩
  case notification n =>
    obtain ⟨target, htarget, -⟩ := bind_eq_ok_iff.mp h
    exact Target.present_of_ok (mapError_eq_ok_iff.mp htarget)
  case faculty f => exact bne_iff_ne.mp (require_eq_ok_iff.mp h)

end Entity

/-- What a stored row is read as, with what it is joined to if it is a section's. -/
def Store.entity? (s : Store) (r : Store.Row) : Option (Except Store.RowFault Entity) :=
  r.id.bind fun key => r.toEntity? (s.spaceTimeIds key) (s.teacherIds key)

namespace Registrar

open Store

variable {s s' : Store} {call : Call} {e new : Entity} {q r : Row} {kind : Kind} {key : Uuid}

/-! ### Stored rows -/

/-- Each row is read as something lawful, save for those that join a section to others. -/
def AllLawful (s : Store) : Prop :=
  ∀ r ∈ s.rows, r.table.isJunction = false → ∃ e, s.entity? r = some (.ok e) ∧ e.Lawful

theorem entity?_of_isAt (h : r.isAt (tableOf kind) key = true) :
    s.entity? r = r.toEntity? (s.spaceTimeIds key) (s.teacherIds key) := by
  rw [Store.entity?, (Row.isAt_iff.mp h).2]
  rfl

theorem entity?_congr (h : r.table ≠ .sections) : s'.entity? r = s.entity? r := by
  unfold Store.entity?
  congr 1
  exact funext fun key => toEntity?_congr h ..

theorem AllLawful.of_holds (hl : AllLawful s) (h : s.Holds kind key e) : e.Lawful := by
  obtain ⟨r, hr, hat, he⟩ := h
  obtain ⟨x, hx, hlawful⟩ := hl r hr (isJunction_eq_false_of_isAt hat)
  rw [entity?_of_isAt hat, he] at hx
  obtain rfl := Except.ok.inj (Option.some.inj hx)
  exact hlawful

/-! ### One call -/

/-- **What may replace a lawful thing keeps the laws of its kind.** A revised requirement joins what
it has joined before. -/
theorem keepsLaws_of_mayReplace {old : Entity} {ctx : Context} (hold : old.Lawful)
    (hkind : old.kind = e.kind) (h : e.mayReplace old ctx = .ok ()) : e.KeepsLaws := by
  cases e
  case prerequisite p =>
    cases old <;> simp only [Entity.kind, reduceCtorEq] at hkind
    obtain ⟨subject, required, hends, hne⟩ := hold.laws
    have hsame := beq_iff_eq.mp (require_eq_ok_iff.mp h)
    exact ⟨subject, required, hsame.trans hends, hne⟩
  case course c =>
    obtain ⟨_, hcheck⟩ := Course.check_of_accepted (.inr ⟨old, h⟩)
    obtain ⟨_, _, _, st, hpasses⟩ := Course.passes_of_check hcheck
    exact ⟨st, hpasses.state⟩
  all_goals
    refine Entity.keepsLaws_of_mayEnter (Entity.mayEnter_of_accepted (.inr ⟨old, h⟩) ?_ ?_) <;>
      rintro ⟨⟩

/-- **What is written is lawful.** -/
theorem Writes.lawful (hl : AllLawful s) (h : Writes call s s' e new) : new.Lawful := by
  cases h with
  | created _ _ h =>
    obtain ⟨part, -, hreview⟩ := h.reviewed
    obtain ⟨hviolations, hrules⟩ := Entity.reviewNew_eq_ok_iff.mp hreview
    exact ⟨Entity.ownViolations_of_violations hviolations, Entity.keepsLaws_of_mayEnter hrules⟩
  | updated _ _ h =>
    obtain ⟨part, -, hreview⟩ := h.reviewed
    obtain ⟨⟨hkind, -⟩, hviolations, hrules⟩ := Entity.reviewRevision_eq_ok_iff.mp hreview
    have hlawful : e.Lawful := ⟨Entity.ownViolations_of_violations hviolations,
      keepsLaws_of_mayReplace (hl.of_holds h.held) hkind hrules⟩
    exact h.new_eq ▸ hlawful.withAudit _

theorem Writes.entity?_eq {row : Row} (hs : s.Conforms) (h : Writes call s s' e new)
    (hrow : Row.ofEntity new = .ok row) : s'.entity? row.settled = some (.ok new.settled) := by
  rw [entity?_of_isAt (isAt_settled_of_ofEntity hrow)]
  exact h.toEntity?_eq hs hrow

/-- **A section that is recounted stays lawful**: it is joined to the same, it has the same room,
and its counter is right. -/
theorem lawful_of_recounted {x x' : SectionRow} (hs : Accounted s')
    (hl : (Entity.section (s.joined x)).Lawful) (h : Stays call s s' (.section x) (.section x'))
    (hx : x' ∈ s'.sections) : (Entity.section (s'.joined x')).Lawful := by
  obtain ⟨-, -, hroom, -, hslots⟩ := Entity.ownViolations_section_eq_nil_iff.mp hl.fields
  obtain ⟨honce, -⟩ := hl.laws
  obtain ⟨m, keys, actor, now, hreseated⟩ := h.reseated
  obtain rfl := Row.section.inj hreseated
  have hid := x.id_reseated m keys actor now
  have hmost : 0 < (x.reseated m keys actor now).maxCapacity := by
    rw [SectionRow.maxCapacity_reseated]
    exact hroom
  have hbooks : s'.spaceTimeIds x.audit.id = s.spaceTimeIds x.audit.id :=
    (joined_congr (h.joins_eq _ (Row.isAt_iff.mpr ⟨rfl, rfl⟩))).1
  have hcounter : 0 ≤ (x.reseated m keys actor now).currentCapacity := by
    rw [Int32.le_iff_toInt_le, Int32.toInt_zero]
    exact toInt_nonneg_of_conforms hs.conforms hx
  constructor
  · refine Entity.ownViolations_section_eq_nil_iff.mpr ⟨nofun, nofun, hmost, hcounter, ?_⟩
    simp only [Store.joined, SectionRow.toSection, hid, hbooks]
    exact hslots
  · refine ⟨?_, hs.withinRoom _ hx⟩
    simp only [Store.joined, SectionRow.toSection, hid, hbooks]
    exact honce

/-- **What stays where it is stays lawful.** -/
theorem Stays.lawful (hs : Accounted s') (hl : AllLawful s) (h : Stays call s s' q r)
    (hr : r ∈ s'.rows) (hj : r.table.isJunction = false) :
    ∃ e, s'.entity? r = some (.ok e) ∧ e.Lawful := by
  by_cases htable : r.table = .sections
  · cases r <;> simp only [Row.table, reduceCtorEq] at htable
    rename_i x'
    obtain ⟨x, -, rfl, -⟩ := h.exists_section
    obtain ⟨e, he, hlawful⟩ := hl _ h.mem rfl
    obtain rfl : Entity.section (s.joined x) = e := Except.ok.inj (Option.some.inj he)
    exact ⟨.section (s'.joined x'), rfl, lawful_of_recounted hs hlawful h (mem_typed_iff.mpr hr)⟩
  · obtain rfl := h.eq htable
    rw [entity?_congr htable]
    exact hl _ h.mem hj

theorem Step.allLawful (h : Step call s s') (hs : Accounted s) (hl : AllLawful s) :
    AllLawful s' := by
  intro r hr hj
  cases h.origin hs.conforms hr with
  | stored hstays => exact hstays.lawful (h.accounted hs) hl hr hj
  | written hw hrow heq => exact ⟨_, heq ▸ hw.entity?_eq hs.conforms hrow, (hw.lawful hl).settled⟩
  | joined _ hlink =>
    rw [(settled_of_mem_linkRows hlink).2.1] at hj
    cases hj

/-! ### Runs -/

theorem Reachable.allLawful (h : Reachable s) : AllLawful s := by
  induction h with
  | empty => exact fun r hr => absurd hr List.not_mem_nil
  | after hreach call ih => exact (step_after hreach.conforms call).allLawful hreach.accounted ih

/-- **Every stored row is lawful**, in every run: it is read without error, as something whose own
fields violate no constraint and that keeps the laws of its kind. -/
theorem stored_lawful (calls : List Call) {r : Row} (hr : r ∈ (storeAfter calls).rows)
    (hj : r.table.isJunction = false) : ∃ e, (storeAfter calls).entity? r = some (.ok e) ∧
      e.ownViolations = [] ∧ e.KeepsLaws := by
  obtain ⟨e, he, hlawful⟩ := (reachable_storeAfter calls).allLawful r hr hj
  exact ⟨e, he, hlawful.fields, hlawful.laws⟩

theorem stored_lawful_sample : Row.section Sample.sectionRow ∈ (storeAfter Sample.calls).rows ∧
    ∃ e, (storeAfter Sample.calls).entity? (.section Sample.sectionRow) = some (.ok e) ∧
      e.ownViolations = [] ∧ e.KeepsLaws := by
  have hr : Row.section Sample.sectionRow ∈ (storeAfter Sample.calls).rows := by decide +kernel
  exact ⟨hr, stored_lawful Sample.calls hr rfl⟩

end Registrar

end Enrollment
