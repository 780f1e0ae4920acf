import Enrollment.Review
import Mathlib.Data.List.Nodup
import Mathlib.Data.List.Perm.Basic
import Mathlib.Tactic.MkIffOfInductiveProp

/-! # What violates a field

For each kind: what its fields have to be like, in plain terms and apart from the constraints that
look at them, and the order in which they are declared. A blank text is one of white space alone; a
text of limited length is too long only if it is not blank; a grade is off the scale if its bits are
those of no number from 0 to 4.

* `mem_violations_iff`: what the constraints find is exactly what a candidate violates.
* `violations_sublist`: they find it in the order of the declaration.
* `isReport_iff`: members and order leave one report on a candidate, and it is the one given. -/

namespace Enrollment

/-! ### Texts and grades -/

namespace Text

/-- The code points of white space. -/
def whiteSpace : List Nat :=
  [0x9, 0xA, 0xB, 0xC, 0xD, 0x20, 0x85, 0xA0, 0x1680, 0x2000, 0x2001, 0x2002, 0x2003, 0x2004,
    0x2005, 0x2006, 0x2007, 0x2008, 0x2009, 0x200A, 0x2028, 0x2029, 0x202F, 0x205F, 0x3000]

/-- All of a text is white space. -/
def Blank (s : String) : Prop := ∀ c ∈ s.toList, c.toNat ∈ whiteSpace

/-- What is wrong with a text that may have so many characters. -/
@[mk_iff]
inductive Faulty (most : Nat) (s : String) : Defect → Prop where
  | blank (h : Blank s) : Faulty most s .blank
  | tooLong (h : ¬ Blank s) (hlong : most < s.length) : Faulty most s (.tooLong most)

theorem isWhite_iff {c : Char} : isWhite c = true ↔ c.toNat ∈ whiteSpace := by
  simp only [isWhite, whiteSpace, Bool.or_eq_true, Bool.and_eq_true, decide_eq_true_eq, beq_iff_eq,
    List.mem_cons, List.not_mem_nil, or_false]
  omega

theorem isBlank_iff {s : String} : isBlank s = true ↔ Blank s := by
  simp only [isBlank, Blank, List.all_eq_true, isWhite_iff]

theorem isBlank_eq_false_iff {s : String} : isBlank s = false ↔ ¬ Blank s := by
  rw [← isBlank_iff, Bool.not_eq_true]

end Text

namespace Grade

/-- From 0 to 4: a number without a sign and with no more bits than 4 has, or zero with a sign. -/
def OnScale (g : Grade) : Prop := g.bits ≤ 0x40800000 ∨ g.bits = 0x80000000

/-- What is wrong with a grade from elsewhere: it is not between the bits of 0 and those of 4. -/
def offScale : Defect := .outsideReals ⟨0⟩ ⟨0x40800000⟩

theorem lowest_eq : lowest = ⟨0⟩ := by decide +kernel

theorem highest_eq : highest = ⟨0x40800000⟩ := by decide +kernel

theorem isValid_iff_onScale {g : Grade} : isValid g = true ↔ g.OnScale := by
  have hvalid : isValid g = true ↔ g.isNumber = true ∧ 0 ≤ g.key ∧ g.key ≤ 0x40800000 := by
    have hlow : lowest.isNumber = true ∧ lowest.key = 0 := by decide +kernel
    have hhigh : highest.isNumber = true ∧ highest.key = 0x40800000 := by decide +kernel
    rw [isValid, Bool.and_eq_true, Binary32.le_iff, Binary32.le_iff, hlow.2, hhigh.2,
      and_iff_right hlow.1, and_iff_right hhigh.1]
    tauto
  have hbits := g.bits.toNat_lt
  rw [hvalid, OnScale, UInt32.le_iff_toNat_le, ← UInt32.toNat_inj]
  change _ ↔ g.bits.toNat ≤ 0x40800000 ∨ g.bits.toNat = 0x80000000
  simp only [Binary32.isNumber, Binary32.key, Binary32.isNegative, decide_eq_true_eq]
  -- a number without a sign is its bits; one with a sign is not above zero
  split
  case isTrue hneg | isFalse hneg =>
    simp only [Binary32.magnitude, Binary32.signPlace, Binary32.infiniteMagnitude] at hneg ⊢
    omega

end Grade

/-! ### What each kind violates -/

/-- What an audit block violates. -/
@[mk_iff]
inductive Audit.Violates (a : Audit) : Violation → Prop where
  | createdBy (h : Text.Blank a.createdBy) : a.Violates ⟨"created_by", .blank⟩
  | updatedBy (h : Text.Blank a.updatedBy) : a.Violates ⟨"updated_by", .blank⟩

@[mk_iff]
inductive Subject.Violates (s : Subject) : Violation → Prop where
  | codeName {d} (h : Text.Faulty 16 s.codeName d) : s.Violates ⟨"code_name", d⟩
  | name {d} (h : Text.Faulty 100 s.name d) : s.Violates ⟨"name", d⟩
  | credits (h : s.credits < 1 ∨ 5 < s.credits) : s.Violates ⟨"credits", .outsideInts 1 5⟩

@[mk_iff]
inductive Prerequisite.Violates (p : Prerequisite) : Violation → Prop where
  | subject (h : p.subjectId = none) : p.Violates ⟨"subject", .missing⟩
  | requiredSubject (h : p.requiredSubjectId = none) : p.Violates ⟨"required_subject", .missing⟩
  | minGrade (h : ¬ p.minGrade.OnScale) : p.Violates ⟨"min_grade", Grade.offScale⟩

@[mk_iff]
inductive Trimester.Violates (t : Trimester) : Violation → Prop where
  | year (h : t.year < 2003) : t.Violates ⟨"year", .before 2003⟩

@[mk_iff]
inductive Section.Violates (s : Section) : Violation → Prop where
  | subject (h : s.subjectId = none) : s.Violates ⟨"subject", .missing⟩
  | trimester (h : s.trimesterId = none) : s.Violates ⟨"trimester", .missing⟩
  | maxCapacity (h : s.maxCapacity ≤ 0) : s.Violates ⟨"max_capacity", .notPositive⟩
  | currentCapacity (h : s.currentCapacity < 0) : s.Violates ⟨"current_capacity", .negative⟩
  | spaceTimes (h : s.spaceTimeIds = []) : s.Violates ⟨"space_times", .noSlot⟩

@[mk_iff]
inductive SpaceTime.Violates (s : SpaceTime) : Violation → Prop where
  | roomNumber {d} (h : Text.Faulty 32 s.roomNumber d) : s.Violates ⟨"room_number", d⟩
  | timeSlot (h : s.timeSlot = none) : s.Violates ⟨"time_slot", .missing⟩

@[mk_iff]
inductive Course.Violates (c : Course) : Violation → Prop where
  | student (h : c.studentId = none) : c.Violates ⟨"student", .missing⟩
  | subject (h : c.subjectId = none) : c.Violates ⟨"subject", .missing⟩
  | trimester (h : c.trimesterId = none) : c.Violates ⟨"trimester", .missing⟩
  | grade (h : ∃ g ∈ c.grade, ¬ g.OnScale) : c.Violates ⟨"grade", Grade.offScale⟩

@[mk_iff]
inductive Notification.Violates (n : Notification) : Violation → Prop where
  | title {d} (h : Text.Faulty 128 n.title d) : n.Violates ⟨"title", d⟩
  | content {d} (h : Text.Faulty 4000 n.content d) : n.Violates ⟨"content", d⟩

/-- What the name and the address of a user violate. The form of an address is told apart from its
length, and of a blank address nothing is told but that. -/
@[mk_iff]
inductive ContactViolates (name email : String) : Violation → Prop where
  | name {d} (h : Text.Faulty 100 name d) : ContactViolates name email ⟨"name", d⟩
  | email {d} (h : Text.Faulty 100 email d) : ContactViolates name email ⟨"email", d⟩
  | form (h : ¬ Text.Blank email) (hsign : '@' ∉ email.toList) :
      ContactViolates name email ⟨"email", .notAnAddress⟩

@[mk_iff]
inductive Student.Violates (s : Student) : Violation → Prop where
  | contact {v} (h : ContactViolates s.name s.email v) : s.Violates v
  | universityId (h : s.universityId < 0) : s.Violates ⟨"university_id", .negative⟩

@[mk_iff]
inductive Faculty.Violates (f : Faculty) : Violation → Prop where
  | contact {v} (h : ContactViolates f.name f.email v) : f.Violates v

namespace Entity

/-- What a candidate violates, its audit block aside. -/
def OwnViolates : Entity → Violation → Prop
  | subject e => e.Violates
  | prerequisite e => e.Violates
  | trimester e => e.Violates
  | .section e => e.Violates
  | spaceTime e => e.Violates
  | course e => e.Violates
  | notification e => e.Violates
  | student e => e.Violates
  | faculty e => e.Violates

/-- What a candidate violates. -/
def Violates (e : Entity) (v : Violation) : Prop := (audit e).Violates v ∨ e.OwnViolates v

end Entity

/-! ### The constraints on one field -/

namespace Constraint

variable {α β : Type} {d : Defect}

@[simp]
theorem mem_violations_cons_iff {c : Constraint α} {cs : List (Constraint α)} {a : α}
    {v : Violation} : v ∈ violations (c :: cs) a ↔
      (∃ d, c.defect a = some d ∧ v = ⟨c.field, d⟩) ∨ v ∈ violations cs a := by
  simp only [mem_violations_iff, List.exists_mem_cons_iff, violation?, Option.map_eq_some_iff,
    eq_comm (a := v)]

@[simp]
theorem not_mem_violations_nil {a : α} {v : Violation} : v ∉ violations [] a := List.not_mem_nil

theorem mem_violations_append_iff {cs ds : List (Constraint α)} {a : α} {v : Violation} :
    v ∈ violations (cs ++ ds) a ↔ v ∈ violations cs a ∨ v ∈ violations ds a := by
  rw [violations, List.filterMap_append, List.mem_append]
  rfl

@[simp]
theorem present_eq_some_iff {b : Option β} : present b = some d ↔ b = none ∧ d = .missing := by
  cases b <;> simp [present, eq_comm]

@[simp]
theorem text_eq_some_iff {most : Nat} {s : String} :
    text most s = some d ↔ Text.Faulty most s d := by
  rw [Text.faulty_iff, text]
  cases hblank : Text.isBlank s with
  | true => simp [Text.isBlank_iff.mp hblank, eq_comm]
  | false => simp [Text.isBlank_eq_false_iff.mp hblank, eq_comm]

@[simp]
theorem named_eq_some_iff {s : String} : named s = some d ↔ Text.Blank s ∧ d = .blank := by
  rw [named, Option.ite_none_right_eq_some, Text.isBlank_iff, Option.some_inj, eq_comm]

@[simp]
theorem ints_eq_some_iff {low high n : Int} :
    ints low high n = some d ↔ (n < low ∨ high < n) ∧ d = .outsideInts low high := by
  rw [ints, Option.ite_none_left_eq_some, Option.some_inj, eq_comm]
  exact and_congr_left' (by omega)

@[simp]
theorem grade_eq_some_iff {g : Grade} : grade g = some d ↔ ¬ g.OnScale ∧ d = Grade.offScale := by
  rw [← Grade.isValid_iff_onScale, Grade.offScale, ← Grade.lowest_eq, ← Grade.highest_eq, grade,
    reals, Option.ite_none_left_eq_some, Option.some_inj, eq_comm (a := d)]
  rfl

@[simp]
theorem holds_eq_some_iff {defect : Defect} {b : Bool} :
    holds defect b = some d ↔ b = false ∧ d = defect := by
  cases b <;> simp [holds, eq_comm]

end Constraint

/-! ### All constraints find what is violated -/

section Members

variable {v : Violation}

theorem Audit.mem_violations_iff {a : Audit} :
    v ∈ Constraint.violations constraints a ↔ a.Violates v := by
  simp [constraints, violates_iff]

theorem Subject.mem_violations_iff {s : Subject} :
    v ∈ Constraint.violations constraints s ↔ s.Violates v := by
  simp [constraints, violates_iff, mostInName, Int16.lt_iff_toInt_lt]

theorem Prerequisite.mem_violations_iff {p : Prerequisite} :
    v ∈ Constraint.violations constraints p ↔ p.Violates v := by
  simp [constraints, violates_iff]

theorem Trimester.mem_violations_iff {t : Trimester} :
    v ∈ Constraint.violations constraints t ↔ t.Violates v := by
  have hyear : earliestYear = 2003 := rfl
  simp [constraints, violates_iff, ← hyear]

theorem Section.mem_violations_iff {s : Section} :
    v ∈ Constraint.violations constraints s ↔ s.Violates v := by
  simp [constraints, violates_iff]

theorem SpaceTime.mem_violations_iff {s : SpaceTime} :
    v ∈ Constraint.violations constraints s ↔ s.Violates v := by
  simp [constraints, violates_iff]

theorem Course.mem_violations_iff {c : Course} :
    v ∈ Constraint.violations constraints c ↔ c.Violates v := by
  simp [constraints, violates_iff, Option.bind_eq_some_iff]

theorem Notification.mem_violations_iff {n : Notification} :
    v ∈ Constraint.violations constraints n ↔ n.Violates v := by
  simp [constraints, violates_iff]

theorem mem_violations_contact_iff {α : Type} {name email : α → String} {a : α} :
    v ∈ Constraint.violations (contactConstraints name email) a ↔
      ContactViolates (name a) (email a) v := by
  simp [contactConstraints, contactViolates_iff, mostInName, Text.isBlank_eq_false_iff, and_assoc]

theorem Student.mem_violations_iff {s : Student} :
    v ∈ Constraint.violations constraints s ↔ s.Violates v := by
  simp [constraints, violates_iff, Constraint.mem_violations_append_iff,
    mem_violations_contact_iff]

theorem Faculty.mem_violations_iff {f : Faculty} :
    v ∈ Constraint.violations constraints f ↔ f.Violates v := by
  simp [constraints, violates_iff, mem_violations_contact_iff]

end Members

/-! ### The order of the declaration -/

/-- A field, with the defects that it may have. -/
structure Declared where
  field : String
  defects : List Defect

/-- What may be found of the fields of a list, in its order. -/
def Declared.violations (fs : List Declared) : List Violation :=
  fs.flatMap fun f => f.defects.map (⟨f.field, ·⟩)

/-- A text that has to be there, with so many characters at most. -/
def Declared.text (field : String) (most : Nat) : Declared := ⟨field, [.blank, .tooLong most]⟩

/-- A reference that has to be there. -/
def Declared.reference (field : String) : Declared := ⟨field, [.missing]⟩

def Declared.audit : List Declared := [⟨"created_by", [.blank]⟩, ⟨"updated_by", [.blank]⟩]

def Declared.contact : List Declared :=
  [.text "name" 100, .text "email" 100, ⟨"email", [.notAnAddress]⟩]

/-- The fields of a kind in their order. -/
def Kind.fields : Kind → List Declared
  | subject => [.text "code_name" 16, .text "name" 100, ⟨"credits", [.outsideInts 1 5]⟩]
  | prerequisite =>
    [.reference "subject", .reference "required_subject", ⟨"min_grade", [Grade.offScale]⟩]
  | trimester => [⟨"year", [.before 2003]⟩]
  | .section =>
    [.reference "subject", .reference "trimester", ⟨"max_capacity", [.notPositive]⟩,
      ⟨"current_capacity", [.negative]⟩, ⟨"space_times", [.noSlot]⟩]
  | spaceTime => [.text "room_number" 32, .reference "time_slot"]
  | course =>
    [.reference "student", .reference "subject", .reference "trimester",
      ⟨"grade", [Grade.offScale]⟩]
  | notification => [.text "title" 128, .text "content" 4000]
  | student => Declared.contact ++ [⟨"university_id", [.negative]⟩]
  | faculty => Declared.contact

/-- All that may be found of a thing of a kind in the order in which its fields are declared, those
of its audit block first. -/
def Kind.declared (k : Kind) : List Violation :=
  Declared.violations Declared.audit ++ Declared.violations k.fields

theorem Kind.nodup_declared (k : Kind) : k.declared.Nodup := by
  cases k <;> decide +kernel

namespace Constraint

variable {α β : Type} {a : α}

/-- A constraint finds nothing but what is declared of its field. -/
structure Finds (a : α) (c : Constraint α) (f : Declared) : Prop where
  field : c.field = f.field
  defect : ∀ d, c.defect a = some d → d ∈ f.defects

namespace Finds

variable {field : String} {defect : Defect}

theorem text {most : Nat} {get : α → String} :
    Finds a ⟨field, fun a => Constraint.text most (get a)⟩ (.text field most) := by
  refine ⟨rfl, fun d hd => ?_⟩
  cases text_eq_some_iff.mp hd with
  | blank => exact List.mem_cons_self
  | tooLong => exact List.mem_cons_of_mem _ List.mem_cons_self

theorem single {check : α → Option Defect} (h : ∀ d, check a = some d → d = defect) :
    Finds a ⟨field, check⟩ ⟨field, [defect]⟩ :=
  ⟨rfl, fun d hd => List.mem_singleton.mpr (h d hd)⟩

theorem reference {get : α → Option β} :
    Finds a ⟨field, fun a => Constraint.present (get a)⟩ (.reference field) :=
  single fun _ hd => (present_eq_some_iff.mp hd).2

theorem named {get : α → String} :
    Finds a ⟨field, fun a => Constraint.named (get a)⟩ ⟨field, [.blank]⟩ :=
  single fun _ hd => (named_eq_some_iff.mp hd).2

theorem holds {get : α → Bool} :
    Finds a ⟨field, fun a => Constraint.holds defect (get a)⟩ ⟨field, [defect]⟩ :=
  single fun _ hd => (holds_eq_some_iff.mp hd).2

end Finds

theorem violations_sublist {cs : List (Constraint α)} {fs : List Declared}
    (h : List.Forall₂ (Finds a) cs fs) :
    (violations cs a).Sublist (Declared.violations fs) := by
  -- a constraint finds one defect at most, so it adds nothing or one of those of its field
  induction h with
  | nil => exact .slnil
  | @cons c f cs fs hc _ ih =>
    cases hd : c.defect a with
    | none =>
      have hnone : violations (c :: cs) a = violations cs a :=
        List.filterMap_cons_none (by simp [violation?, hd])
      exact hnone ▸ ih.trans (List.sublist_append_right _ _)
    | some d =>
      have hsome : violations (c :: cs) a = ⟨f.field, d⟩ :: violations cs a :=
        List.filterMap_cons_some (by simp [violation?, hd, hc.field])
      have hmem : (⟨f.field, d⟩ : Violation) ∈ f.defects.map (⟨f.field, ·⟩) :=
        List.mem_map_of_mem (hc.defect d hd)
      exact hsome ▸ (List.singleton_sublist.mpr hmem).append ih

end Constraint

open Constraint (Finds)

theorem Audit.finds (a : Audit) : List.Forall₂ (Finds a) constraints Declared.audit :=
  .cons .named (.cons .named .nil)

theorem Subject.finds (s : Subject) : List.Forall₂ (Finds s) constraints Kind.subject.fields :=
  .cons .text (.cons .text (.cons
    (.single fun _ hd => (Constraint.ints_eq_some_iff.mp hd).2) .nil))

theorem Prerequisite.finds (p : Prerequisite) :
    List.Forall₂ (Finds p) constraints Kind.prerequisite.fields :=
  .cons .reference (.cons .reference (.cons
    (.single fun _ hd => (Constraint.grade_eq_some_iff.mp hd).2) .nil))

theorem Trimester.finds (t : Trimester) :
    List.Forall₂ (Finds t) constraints Kind.trimester.fields :=
  .cons .holds .nil

theorem Section.finds (s : Section) : List.Forall₂ (Finds s) constraints Kind.section.fields :=
  .cons .reference (.cons .reference (.cons .holds (.cons .holds (.cons .holds .nil))))

theorem SpaceTime.finds (s : SpaceTime) :
    List.Forall₂ (Finds s) constraints Kind.spaceTime.fields :=
  .cons .text (.cons .reference .nil)

theorem Course.finds (c : Course) : List.Forall₂ (Finds c) constraints Kind.course.fields := by
  refine .cons .reference (.cons .reference (.cons .reference (.cons (.single fun d hd => ?_)
    .nil)))
  obtain ⟨g, -, hg⟩ := Option.bind_eq_some_iff.mp hd
  exact (Constraint.grade_eq_some_iff.mp hg).2

theorem Notification.finds (n : Notification) :
    List.Forall₂ (Finds n) constraints Kind.notification.fields :=
  .cons .text (.cons .text .nil)

theorem Student.finds (s : Student) : List.Forall₂ (Finds s) constraints Kind.student.fields :=
  .cons .text (.cons .text (.cons .holds (.cons .holds .nil)))

theorem Faculty.finds (f : Faculty) : List.Forall₂ (Finds f) constraints Kind.faculty.fields :=
  .cons .text (.cons .text (.cons .holds .nil))

/-! ### Findings -/

/-- What a constraint finds: the defect of its field, if there is one. -/
structure Finding where
  field : String
  defect : Option Defect
deriving DecidableEq, Repr

/-- The defects among the findings, in order. -/
def report (fs : List Finding) : List Violation :=
  fs.filterMap fun f => f.defect.map (⟨f.field, ·⟩)

/-- What each of a list of constraints finds, in its order. -/
def Constraint.findings {α : Type} (cs : List (Constraint α)) (a : α) : List Finding :=
  cs.map fun c => ⟨c.field, c.defect a⟩

namespace Entity

/-- What the constraints of its kind find of a candidate. -/
def ownFindings : Entity → List Finding
  | subject e => Constraint.findings Subject.constraints e
  | prerequisite e => Constraint.findings Prerequisite.constraints e
  | trimester e => Constraint.findings Trimester.constraints e
  | .section e => Constraint.findings Section.constraints e
  | spaceTime e => Constraint.findings SpaceTime.constraints e
  | course e => Constraint.findings Course.constraints e
  | notification e => Constraint.findings Notification.constraints e
  | student e => Constraint.findings Student.constraints e
  | faculty e => Constraint.findings Faculty.constraints e

/-- What all constraints on a candidate find, those on its audit block first. -/
def findings (e : Entity) : List Finding :=
  Constraint.findings Audit.constraints (audit e) ++ e.ownFindings

end Entity

theorem report_append (fs gs : List Finding) : report (fs ++ gs) = report fs ++ report gs :=
  List.filterMap_append

theorem report_findings {α : Type} (cs : List (Constraint α)) (a : α) :
    report (Constraint.findings cs a) = Constraint.violations cs a := by
  rw [report, Constraint.findings, List.filterMap_map]
  rfl

theorem report_eq_nil_iff {fs : List Finding} : report fs = [] ↔ ∀ f ∈ fs, f.defect = none := by
  simp only [report, List.filterMap_eq_nil_iff, Option.map_eq_none_iff]

theorem forall_findings_iff {α : Type} {cs : List (Constraint α)} {a : α} :
    (∀ f ∈ Constraint.findings cs a, f.defect = none) ↔ ∀ c ∈ cs, c.defect a = none :=
  List.forall_mem_map

/-- **What is reported of a candidate** is what the declared constraints find, in their order. -/
theorem Entity.violations_eq_report (e : Entity) : e.violations = report e.findings := by
  rw [findings, report_append, report_findings]
  cases e <;> exact congrArg (_ ++ ·) (report_findings _ _).symm

/-! ### Reports -/

namespace Entity

variable {e : Entity} {v : Violation} {vs : List Violation}

/-- Exactly what a candidate violates, in the order of the declaration. -/
structure IsReport (e : Entity) (vs : List Violation) : Prop where
  exact : ∀ v, v ∈ vs ↔ e.Violates v
  inOrder : vs.Sublist e.kind.declared

theorem mem_report_ownFindings_iff : v ∈ report e.ownFindings ↔ e.OwnViolates v := by
  cases e
  all_goals rw [ownFindings, report_findings]
  case subject => exact Subject.mem_violations_iff
  case prerequisite => exact Prerequisite.mem_violations_iff
  case trimester => exact Trimester.mem_violations_iff
  case «section» => exact Section.mem_violations_iff
  case spaceTime => exact SpaceTime.mem_violations_iff
  case course => exact Course.mem_violations_iff
  case notification => exact Notification.mem_violations_iff
  case student => exact Student.mem_violations_iff
  case faculty => exact Faculty.mem_violations_iff

/-- **What the constraints find is what a candidate violates.** -/
theorem mem_violations_iff : v ∈ e.violations ↔ e.Violates v := by
  rw [violations_eq_report, findings, report_append, List.mem_append, report_findings]
  exact or_congr Audit.mem_violations_iff mem_report_ownFindings_iff

theorem ownFindings_of_forall_not (h : ∀ v, ¬ e.OwnViolates v) :
    ∀ f ∈ e.ownFindings, f.defect = none :=
  report_eq_nil_iff.mp (List.eq_nil_iff_forall_not_mem.mpr fun v hv =>
    h v (mem_report_ownFindings_iff.mp hv))

/-- **They find it in the order of the declaration.** -/
theorem violations_sublist (e : Entity) : e.violations.Sublist e.kind.declared := by
  cases e
  all_goals refine (Constraint.violations_sublist (Audit.finds _)).append ?_
  case subject e => exact Constraint.violations_sublist e.finds
  case prerequisite e => exact Constraint.violations_sublist e.finds
  case trimester e => exact Constraint.violations_sublist e.finds
  case «section» e => exact Constraint.violations_sublist e.finds
  case spaceTime e => exact Constraint.violations_sublist e.finds
  case course e => exact Constraint.violations_sublist e.finds
  case notification e => exact Constraint.violations_sublist e.finds
  case student e => exact Constraint.violations_sublist e.finds
  case faculty e => exact Constraint.violations_sublist e.finds

/-- **There is one report on a candidate**, and it is what the constraints find. -/
theorem isReport_iff : e.IsReport vs ↔ vs = e.violations := by
  constructor
  · intro h
    have hperm : vs.Perm e.violations :=
      (List.perm_ext_iff_of_nodup (h.inOrder.nodup e.kind.nodup_declared)
        (e.violations_sublist.nodup e.kind.nodup_declared)).mpr
        fun v => (h.exact v).trans mem_violations_iff.symm
    exact (List.Nodup.perm_iff_eq_of_sublist e.kind.nodup_declared h.inOrder
      e.violations_sublist).mp hperm
  · rintro rfl
    exact ⟨fun _ => mem_violations_iff, e.violations_sublist⟩

end Entity

end Enrollment
