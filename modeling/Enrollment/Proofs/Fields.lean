import Enrollment.Proofs.Fields.Violations
import Enrollment.Proofs.Review

/-! # Fields come first

A candidate is held against the constraints on its fields before anything that is stored is looked
at, and it is told of all that it violates. The rules of a kind ask once more for the references
that they go by, and would refuse a candidate for a missing one alone; but each of these references
is one that the constraints of the kind ask for, so by then none of them is missing.

* `notStructural_mayStand`: the rules refuse nobody for fields.
* `structural_iff`: a candidate is refused for fields iff it violates any, and then with the one
  report on it, whatever is stored. -/

namespace Enrollment

/-! ### Refusals for other reasons -/

/-- If a computation refuses anything, it is for a rule or a clash and not for fields. -/
def NotStructural {α : Type} (x : Except Refusal α) : Prop := ∀ vs, x ≠ .error (.structural vs)

namespace NotStructural

variable {ε α β : Type}

theorem ok (a : α) : NotStructural (.ok a) := nofun

theorem breaks (broken : Rule) : NotStructural (.error (.rule broken) : Except Refusal α) := nofun

theorem clashes (clash : Clash) : NotStructural (.error (.conflict clash) : Except Refusal α) :=
  nofun

theorem rule {condition : Bool} {broken : Rule} :
    NotStructural (require condition (.rule broken)) := by
  cases condition
  · exact breaks broken
  · exact ok ()

theorem clash {condition : Bool} {clash : Clash} :
    NotStructural (require condition (.conflict clash)) := by
  cases condition
  · exact clashes clash
  · exact ok ()

theorem mapError {x : Except ε α} {f : ε → Rule} :
    NotStructural (x.mapError fun e => .rule (f e)) := by
  cases x with
  | error e => exact breaks (f e)
  | ok a => exact ok a

theorem present {value : Option α} {field : String} (h : ∃ a, value = some a) :
    NotStructural (Enrollment.present value field) := by
  obtain ⟨a, rfl⟩ := h
  exact ok a

theorem bind {x : Except Refusal α} {f : α → Except Refusal β} (hx : NotStructural x)
    (hf : ∀ a, NotStructural (f a)) : NotStructural (x >>= f) := by
  intro vs h
  cases x with
  | error r => exact hx vs (congrArg _ (Except.error.inj h))
  | ok a => exact hf a vs h

end NotStructural

/-! ### The rules of each kind -/

theorem Prerequisite.notStructural_mayEnter {p : Prerequisite} {ctx : Context}
    (h : ∀ c ∈ constraints, c.defect p = none) : NotStructural (p.mayEnter ctx) := by
  obtain ⟨a, b, hedge⟩ := exists_edge h
  obtain ⟨ha, hb⟩ := edge_eq_some_iff.mp hedge
  refine .bind (.present ⟨a, ha⟩) fun _ => .bind (.present ⟨b, hb⟩) fun _ =>
    .bind .rule fun _ => .bind .rule fun _ => .bind .rule fun _ =>
    .bind .clash fun _ => ?_
  split
  · exact .breaks _
  · exact .ok ()

theorem Trimester.notStructural_mayEnter (t : Trimester) (ctx : Context) :
    NotStructural (t.mayEnter ctx) :=
  .bind .rule fun _ => .bind .rule fun _ => .bind .mapError fun _ => .clash

namespace Section

variable {s : Section} {ctx : Context}

theorem notStructural_checkSlots {l : Lookup} {seen ids : List Uuid} :
    NotStructural (checkSlots l seen ids) := by
  induction ids generalizing seen with
  | nil => exact .ok ()
  | cons id ids ih => exact .bind .rule fun _ => .bind .rule fun _ => ih

theorem notStructural_checkTeachers {l : Lookup} {ids : List Uuid} :
    NotStructural (checkTeachers l ids) := by
  induction ids with
  | nil => exact .ok ()
  | cons id ids ih =>
    refine .bind ?_ fun _ => ih
    unfold checkTeacher
    split
    · exact .rule
    · exact .breaks _

theorem notStructural_mayEnter (h : ∀ c ∈ constraints, c.defect s = none) :
    NotStructural (s.mayEnter ctx) := by
  obtain ⟨hsubject, htrimester⟩ := exists_references h
  refine .bind (.present hsubject) fun _ => .bind (.present htrimester) fun _ =>
    .bind .rule fun _ => .bind .rule fun _ => .bind .rule fun _ =>
    .bind notStructural_checkSlots fun _ => .bind notStructural_checkTeachers fun _ => ?_
  split
  · exact .clashes _
  · exact .ok ()

end Section

theorem SpaceTime.notStructural_mayEnter {t : SpaceTime} {ctx : Context}
    (h : ∀ c ∈ constraints, c.defect t = none) : NotStructural (t.mayEnter ctx) := by
  refine .bind (.present (exists_slot_of_fields h)) fun _ => .bind .rule fun _ => ?_
  split
  · exact .clash
  · exact .ok ()

namespace Course

variable {c : Course} {ctx : Context} {old : Option CourseState}

theorem notStructural_checkSection {l : Lookup} {subject trimester id : Uuid} :
    NotStructural (checkSection l subject trimester id) := by
  unfold checkSection
  split
  · exact .breaks _
  · exact .bind .rule fun _ => .rule

theorem notStructural_checkSeat {l : Lookup} {m : SeatMove} : NotStructural (checkSeat l m) := by
  unfold checkSeat
  split
  · unfold SeatMove.attempt
    dsimp only
    split
    · split
      · exact .breaks _
      · exact .ok ()
    · exact .ok ()
  · exact .ok ()

theorem notStructural_check (h : ∀ d ∈ constraints, d.defect c = none) :
    NotStructural (c.check old ctx) := by
  obtain ⟨hstudent, hsubject, htrimester⟩ := exists_references h
  refine .bind (.present hstudent) fun _ => .bind (.present hsubject) fun _ =>
    .bind (.present htrimester) fun _ => .bind .mapError fun _ => .bind .rule fun _ =>
    .bind .rule fun _ => .bind .rule fun _ => ?_
  split
  · exact .bind notStructural_checkSection fun _ =>
      .bind .clash fun _ => notStructural_checkSeat
  · exact .bind (.ok ()) fun _ => .bind .clash fun _ => notStructural_checkSeat

end Course

theorem Notification.notStructural_mayEnter (n : Notification) (ctx : Context) :
    NotStructural (n.mayEnter ctx) :=
  .bind .mapError fun _ => .rule

/-! ### All kinds -/

namespace Entity

variable {e old : Entity} {ctx : Context}

theorem notStructural_mayEnter (h : ∀ f ∈ e.ownFindings, f.defect = none) :
    NotStructural (e.mayEnter ctx) := by
  cases e
  case subject => exact .clash
  case prerequisite => exact Prerequisite.notStructural_mayEnter (forall_findings_iff.mp h)
  case trimester e => exact e.notStructural_mayEnter ctx
  case «section» => exact Section.notStructural_mayEnter (forall_findings_iff.mp h)
  case spaceTime => exact SpaceTime.notStructural_mayEnter (forall_findings_iff.mp h)
  case course => exact Course.notStructural_check (forall_findings_iff.mp h)
  case notification e => exact e.notStructural_mayEnter ctx
  case student => exact .clash
  case faculty => exact .rule

theorem notStructural_mayReplace (h : ∀ f ∈ e.ownFindings, f.defect = none) :
    NotStructural (e.mayReplace old ctx) := by
  unfold mayReplace
  split
  · exact .rule
  · exact .bind .rule fun _ => Section.notStructural_mayEnter (forall_findings_iff.mp h)
  · exact Course.notStructural_check (forall_findings_iff.mp h)
  · exact .bind .rule fun _ => Notification.notStructural_mayEnter _ ctx
  · exact notStructural_mayEnter h

/-- **The rules refuse nobody for fields**, if no constraint of the kind finds a defect. -/
theorem notStructural_mayStand (h : ∀ f ∈ e.ownFindings, f.defect = none) (old : Option Entity) :
    NotStructural (e.mayStand old ctx) := by
  cases old with
  | none => exact notStructural_mayEnter h
  | some old => exact notStructural_mayReplace h

theorem checked_eq_structural_iff {rules : Verdict} {vs : List Violation}
    (hrules : (∀ f ∈ e.ownFindings, f.defect = none) → NotStructural rules) :
    (Verdict.ofViolations e.violations >>= fun _ => rules) = .error (.structural vs) ↔
      e.violations ≠ [] ∧ vs = e.violations := by
  cases hviolations : e.violations with
  | nil =>
    have hnone : ∀ f ∈ e.ownFindings, f.defect = none := fun f hf =>
      report_eq_nil_iff.mp (e.violations_eq_report ▸ hviolations) f (List.mem_append_right _ hf)
    exact iff_of_false (hrules hnone vs) fun h => h.1 rfl
  | cons v rest =>
    rw [and_iff_right (List.cons_ne_nil v rest)]
    constructor
    · intro h
      exact (Refusal.structural.inj (Except.error.inj h)).symm
    · rintro rfl
      rfl

theorem violations_ne_nil_iff : e.violations ≠ [] ↔ ∃ v, e.Violates v := by
  simp only [← mem_violations_iff, ne_eq, List.eq_nil_iff_forall_not_mem, not_forall, not_not]

/-- **A candidate is refused for its fields first, and for all of them.** There is one report on a
candidate: all that its fields violate, in the order in which they are declared, those of its audit
block first. It is refused for fields iff it violates any, and then with this report, whatever is
stored and whatever the time is. A candidate for replacing a stored row is treated alike, once it
has been found to be a revision of it. If it violates nothing, its audit block aside, the rules that
come after the fields, for a new row or for a revision, refuse nobody for fields. -/
theorem structural_iff (e : Entity) :
    (∃! vs, e.IsReport vs) ∧
    (∀ l now vs, e.reviewNew l now = .error (.structural vs) ↔
      (∃ v, e.Violates v) ∧ e.IsReport vs) ∧
    (∀ old l now vs, e.checkRevision old = .ok () →
      (e.reviewRevision old l now = .error (.structural vs) ↔
        (∃ v, e.Violates v) ∧ e.IsReport vs)) ∧
    ((∀ v, ¬ e.OwnViolates v) →
      ∀ old ctx vs, e.mayStand old ctx ≠ .error (.structural vs)) := by
  simp only [isReport_iff, ← violations_ne_nil_iff]
  refine ⟨existsUnique_eq, fun l now vs => ?_, fun old l now vs hrevision => ?_,
    fun h old ctx => notStructural_mayStand (ownFindings_of_forall_not h) old⟩
  · exact checked_eq_structural_iff fun h => notStructural_mayStand h none
  · rw [reviewRevision, hrevision, ok_bind]
    exact checked_eq_structural_iff fun h => notStructural_mayStand h (some old)

namespace Sample

/-- A section of no subject, with no room, no space time and a blank author. -/
def faulty : Entity :=
  .section ⟨.next (.fresh ⟨1⟩ "registrar" .epoch) " " .epoch, none, some ⟨2⟩, 0, 0, [], []⟩

def faults : List Violation :=
  [⟨"updated_by", .blank⟩, ⟨"subject", .missing⟩, ⟨"max_capacity", .notPositive⟩,
    ⟨"space_times", .noSlot⟩]

def sound : Entity :=
  .prerequisite ⟨.fresh ⟨1⟩ "registrar" .epoch, some ⟨2⟩, some ⟨3⟩, Grade.lowest⟩

end Sample

theorem structural_of_faulty :
    (∀ l now, Sample.faulty.reviewNew l now = .error (.structural Sample.faults)) ∧
    (∀ l now, Sample.faulty.reviewRevision Sample.faulty l now =
      .error (.structural Sample.faults)) ∧
    ∀ old ctx vs, Sample.sound.mayStand old ctx ≠ .error (.structural vs) := by
  have hfaulty : (∃ v, Sample.faulty.Violates v) ∧ Sample.faulty.IsReport Sample.faults :=
    ⟨⟨_, .inr (.subject rfl)⟩, isReport_iff.mpr (by decide +kernel)⟩
  have hsound : ∀ v, ¬ Sample.sound.OwnViolates v := by
    rintro v (h | h | h)
    · cases h
    · cases h
    · exact h (.inl (by decide +kernel))
  obtain ⟨-, hnew, hrevision, -⟩ := structural_iff Sample.faulty
  exact ⟨fun l now => (hnew l now _).mpr hfaulty,
    fun l now => (hrevision Sample.faulty l now _ rfl).mpr hfaulty,
    (structural_iff Sample.sound).2.2.2 hsound⟩

end Entity

end Enrollment
