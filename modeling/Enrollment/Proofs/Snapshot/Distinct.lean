import Enrollment.Proofs.Footprint
import Enrollment.Proofs.Review
import Enrollment.Snapshot
import Mathlib.Data.List.Pairwise

/-! # Snapshots without rivals

Two things of one kind are rivals if they lay claim to one natural key. A snapshot is distinct if no
two of its rows are rivals or have one identifier. Then one row at most fits where the rules ask for
a row, and the order of the rows does not matter.

* `OneFits.any_find?_eq`: to look at the first row that fits is to look at all that do.
* `Distinct.not_rivals`, `Distinct.eq_of_rivals`: an accepted candidate has no rival, except the row
  that it replaces.
* `Distinct.agree_of_rearranges`: rearranged rows agree on what the rules look up. -/

namespace Enrollment

/-! ### Rows -/

section Rows

variable {α : Type} {rows rows' : List α}

/-- One row at most fits. -/
def OneFits (q : α → Bool) (rows : List α) : Prop :=
  rows.Pairwise fun a b => q a = true → q b = false

namespace OneFits

variable {q : α → Bool}

theorem find?_eq_some_iff (h : OneFits q rows) {a : α} :
    rows.find? q = some a ↔ a ∈ rows ∧ q a = true := by
  constructor
  · exact fun ha => ⟨List.mem_of_find?_eq_some ha, List.find?_some ha⟩
  · rintro ⟨ha, hq⟩
    induction rows with
    | nil => exact absurd ha List.not_mem_nil
    | cons b rows ih =>
      obtain ⟨hb, hrows⟩ := List.pairwise_cons.mp h
      rcases List.mem_cons.mp ha with rfl | ha
      · rw [List.find?_cons, hq]
      · have hbq : q b = false := Bool.eq_false_iff.mpr fun hbq => by
          rw [hb a ha hbq] at hq
          cases hq
        rw [List.find?_cons, hbq]
        exact ih hrows ha

theorem perm (h : OneFits q rows) (hp : rows.Perm rows') : OneFits q rows' :=
  List.Pairwise.perm h hp fun hab hb => Bool.eq_false_iff.mpr fun ha => by
    rw [hab ha] at hb
    cases hb

theorem find?_eq_of_perm (h : OneFits q rows) (hp : rows.Perm rows') :
    rows.find? q = rows'.find? q :=
  Option.ext fun a => by rw [h.find?_eq_some_iff, (h.perm hp).find?_eq_some_iff, hp.mem_iff]

/-- **To look at the first row that fits is to look at all that do.** -/
theorem any_find?_eq (h : OneFits q rows) (p : α → Bool) :
    (rows.find? q).any p = rows.any fun a => q a && p a := by
  rw [Bool.eq_iff_iff, Option.any_eq_true, List.any_eq_true]
  simp only [h.find?_eq_some_iff, Bool.and_eq_true, and_assoc]

end OneFits

variable [Audited α]

theorem map_putRow {β : Type} [Audited β] {f : α → β} (hf : ∀ a, Audited.id (f a) = Audited.id a)
    (a : α) (rows : List α) : (putRow a rows).map f = putRow (f a) (rows.map f) := by
  induction rows with
  | nil => rfl
  | cons b rows ih =>
    unfold putRow
    simp only [List.map_cons, hf]
    split
    · rfl
    · rw [List.map_cons, ih]

theorem pairwise_putRow {R : α → α → Prop} (hsymm : ∀ a b, R a b → R b a)
    (hid : ∀ a b, R a b → Audited.id a ≠ Audited.id b) (h : rows.Pairwise R)
    (ha : ∀ b ∈ rows, Audited.id b ≠ Audited.id a → R a b) : (putRow a rows).Pairwise R := by
  induction rows with
  | nil => exact List.pairwise_singleton R a
  | cons b rows ih =>
    obtain ⟨hb, hrows⟩ := List.pairwise_cons.mp h
    unfold putRow
    split <;> rename_i hba
    · -- no row but the one that gives way has its identifier
      refine List.pairwise_cons.mpr ⟨fun c hc => ha c (List.mem_cons_of_mem _ hc) fun hca => ?_,
        hrows⟩
      exact hid b c (hb c hc) (hba.trans hca.symm)
    · refine List.pairwise_cons.mpr ⟨fun c hc => ?_,
        ih hrows fun c hc => ha c (List.mem_cons_of_mem _ hc)⟩
      rcases mem_putRow hc with rfl | hc
      · exact hsymm _ _ (ha b List.mem_cons_self hba)
      · exact hb c hc

end Rows

/-! ### Natural keys -/

namespace Entity

/-- Two things of one kind lay claim to one natural key. -/
def Rivals : Entity → Entity → Prop
  | subject a, subject b => a.codeName = b.codeName
  | prerequisite a, prerequisite b => a.edge = b.edge
  | trimester a, trimester b => a.code = b.code
  | spaceTime a, spaceTime b =>
    a.roomNumber = b.roomNumber ∧ a.dayOfWeek = b.dayOfWeek ∧ a.timeSlot = b.timeSlot
  | .section a, .section b =>
    a.trimesterId = b.trimesterId ∧ ∃ slot ∈ a.spaceTimeIds, slot ∈ b.spaceTimeIds
  | course a, course b =>
    a.studentId = b.studentId ∧ a.subjectId = b.subjectId ∧ a.trimesterId = b.trimesterId
  | student a, student b => a.universityId = b.universityId
  | _, _ => False

/-- Two things have different identifiers and are no rivals. -/
def Apart (a b : Entity) : Prop := Audited.id a ≠ Audited.id b ∧ ¬ a.Rivals b

theorem exists_prerequisite {e : Entity} (h : e.kind = .prerequisite) :
    ∃ p, e = prerequisite p := by
  cases e
  case prerequisite p => exact ⟨p, rfl⟩
  all_goals cases h

theorem Rivals.symm {a b : Entity} (h : a.Rivals b) : b.Rivals a := by
  cases a <;> cases b <;> try exact h.elim
  case subject => exact Eq.symm h
  case prerequisite => exact Eq.symm h
  case trimester => exact Eq.symm h
  case «section» =>
    obtain ⟨ht, slot, ha, hb⟩ := h
    exact ⟨ht.symm, slot, hb, ha⟩
  case spaceTime => exact ⟨h.1.symm, h.2.1.symm, h.2.2.symm⟩
  case course => exact ⟨h.1.symm, h.2.1.symm, h.2.2.symm⟩
  case student => exact Eq.symm h

theorem Apart.symm {a b : Entity} (h : a.Apart b) : b.Apart a :=
  ⟨h.1.symm, fun hr => h.2 hr.symm⟩

instance : Std.Symm Apart := ⟨fun _ _ => Apart.symm⟩

end Entity

namespace Snapshot

variable {s s' : Snapshot} {e : Entity}

/-- No two rows of a kind are rivals or have one identifier. -/
def Distinct (s : Snapshot) : Prop := ∀ kind, (s.entities kind).Pairwise Entity.Apart

/-- Two snapshots hold the same rows of each kind, in whatever order. -/
structure Rearranges (s s' : Snapshot) : Prop where
  subjects : s.subjects.Perm s'.subjects
  prerequisites : s.prerequisites.Perm s'.prerequisites
  trimesters : s.trimesters.Perm s'.trimesters
  sections : s.sections.Perm s'.sections
  spaceTimes : s.spaceTimes.Perm s'.spaceTimes
  courses : s.courses.Perm s'.courses
  notifications : s.notifications.Perm s'.notifications
  students : s.students.Perm s'.students
  faculties : s.faculties.Perm s'.faculties

theorem Rearranges.refl (s : Snapshot) : s.Rearranges s :=
  ⟨.refl _, .refl _, .refl _, .refl _, .refl _, .refl _, .refl _, .refl _, .refl _⟩

theorem Rearranges.symm (h : s.Rearranges s') : s'.Rearranges s :=
  ⟨h.subjects.symm, h.prerequisites.symm, h.trimesters.symm, h.sections.symm, h.spaceTimes.symm,
    h.courses.symm, h.notifications.symm, h.students.symm, h.faculties.symm⟩

theorem Rearranges.entities (h : s.Rearranges s') (kind : Kind) :
    (s.entities kind).Perm (s'.entities kind) := by
  cases kind
  case subject => exact h.subjects.map _
  case prerequisite => exact h.prerequisites.map _
  case trimester => exact h.trimesters.map _
  case «section» => exact h.sections.map _
  case spaceTime => exact h.spaceTimes.map _
  case course => exact h.courses.map _
  case notification => exact h.notifications.map _
  case student => exact h.students.map _
  case faculty => exact h.faculties.map _

theorem entities_put (s : Snapshot) (e : Entity) (kind : Kind) : (s.put e).entities kind =
    if e.kind = kind then putRow e (s.entities kind) else s.entities kind := by
  have hmap : ∀ {α : Type} [Audited α] {f : α → Entity} (a : α) (rows : List α),
      (∀ a, Audited.id (f a) = Audited.id a) → (putRow a rows).map f = putRow (f a) (rows.map f) :=
    fun a rows hf => map_putRow hf a rows
  cases e <;> cases kind <;> first | rfl | exact hmap _ _ fun _ => rfl

/-- A snapshot stays distinct if what is put into it has no rival but the row it replaces. -/
theorem Distinct.put (hs : s.Distinct)
    (h : ∀ b ∈ s.entities e.kind, e.Rivals b → Audited.id b = Audited.id e) :
    (s.put e).Distinct := by
  intro kind
  rw [entities_put]
  split <;> rename_i hkind
  · subst hkind
    exact pairwise_putRow (fun _ _ => Entity.Apart.symm) (fun _ _ => And.left) (hs e.kind)
      fun b hb hne => ⟨hne.symm, fun hr => hne (h b hb hr)⟩
  · exact hs kind

theorem Distinct.of_rearranges (hs : s.Distinct) (h : s.Rearranges s') : s'.Distinct :=
  fun kind => (hs kind).perm (h.entities kind) Entity.Apart.symm

/-- Rows of one kind with one identifier, or with one key, are one row. -/
theorem Distinct.eq {a b : Entity} {kind : Kind} (hs : s.Distinct) (ha : a ∈ s.entities kind)
    (hb : b ∈ s.entities kind) (h : Audited.id a = Audited.id b ∨ a.Rivals b) : a = b := by
  by_contra hne
  have hapart := (hs kind).forall ha hb hne
  exact h.elim hapart.1 hapart.2

/-! ### Looking at one row -/

/-- Rows that fit together are rivals, so one at most fits. -/
theorem oneFits_of_rivals {α : Type} {f : α → Entity} {rows : List α} {q : α → Bool}
    (h : (rows.map f).Pairwise Entity.Apart)
    (hq : ∀ a b, q a = true → q b = true → (f a).Rivals (f b)) : OneFits q rows :=
  (List.pairwise_map.mp h).imp fun hab ha => Bool.eq_false_iff.mpr fun hb => hab.2 (hq _ _ ha hb)

theorem rowById_eq_of_perm {α : Type} [Audited α] {f : α → Entity} {rows rows' : List α}
    (h : (rows.map f).Pairwise Entity.Apart) (hf : ∀ a, Audited.id (f a) = Audited.id a)
    (hp : rows.Perm rows') (id : Uuid) : rowById id rows = rowById id rows' := by
  have hone : OneFits (fun a => Audited.id a == id) rows :=
    (List.pairwise_map.mp h).imp fun {a b} hab ha => by
      have hne := hab.1
      rw [hf, hf, beq_iff_eq.mp ha] at hne
      exact beq_eq_false_iff_ne.mpr hne.symm
  exact hone.find?_eq_of_perm hp

namespace Distinct

variable (hs : s.Distinct)
include hs

theorem subject_fits (code : String) : OneFits (·.codeName == code) s.subjects :=
  oneFits_of_rivals (hs .subject) fun _ _ ha hb => (beq_iff_eq.mp ha).trans (beq_iff_eq.mp hb).symm

theorem trimester_fits (code : Int32) : OneFits (·.code == code) s.trimesters :=
  oneFits_of_rivals (hs .trimester) fun _ _ ha hb =>
    (beq_iff_eq.mp ha).trans (beq_iff_eq.mp hb).symm

theorem student_fits (number : Int64) : OneFits (·.universityId == number) s.students :=
  oneFits_of_rivals (hs .student) fun _ _ ha hb => (beq_iff_eq.mp ha).trans (beq_iff_eq.mp hb).symm

theorem course_fits (student subject trimester : Uuid) :
    OneFits (fun c => c.studentId == some student && c.subjectId == some subject &&
      c.trimesterId == some trimester) s.courses := by
  refine oneFits_of_rivals (f := .course) (hs .course) fun a b ha hb => ?_
  simp only [Bool.and_eq_true, beq_iff_eq] at ha hb
  obtain ⟨⟨ha, ha'⟩, ha''⟩ := ha
  obtain ⟨⟨hb, hb'⟩, hb''⟩ := hb
  exact ⟨ha.trans hb.symm, ha'.trans hb'.symm, ha''.trans hb''.symm⟩

end Distinct

/-! ### Rivals of candidates -/

section Rivals

variable {now : Instant} {replacing : Option Uuid}

theorem prerequisite_aside {p b : Prerequisite} (hb : b ∈ s.prerequisites) (hr : p.edge = b.edge)
    (h : p.mayEnter ⟨s.lookup, now, replacing⟩ = .ok ()) :
    Context.collides ⟨s.lookup, now, replacing⟩ b.audit.id = false := by
  obtain ⟨subject, required, h⟩ := Prerequisite.passes_of_mayEnter h
  obtain ⟨hsubject, hrequired⟩ := Prerequisite.edge_eq_some_iff.mp (hr.symm.trans h.edge_eq)
  exact h.unjoined b (List.mem_filter.mpr ⟨hb, decide_eq_true hsubject⟩) hrequired

theorem section_aside {sec b : Section} (hb : b ∈ s.sections)
    (hr : (Entity.section sec).Rivals (.section b))
    (h : sec.mayEnter ⟨s.lookup, now, replacing⟩ = .ok ()) :
    Context.collides ⟨s.lookup, now, replacing⟩ b.audit.id = false := by
  obtain ⟨_, trimester, h⟩ := Section.passes_of_mayEnter h
  obtain ⟨htrimester, slot, hslot, huses⟩ := hr
  have hbooks : s.lookup.Books trimester b.audit.id slot :=
    ⟨b, List.mem_filter.mpr ⟨hb, beq_iff_eq.mpr (htrimester.symm.trans h.trimesterId)⟩, rfl,
      List.contains_iff_mem.mpr huses⟩
  exact Bool.eq_false_iff.mpr fun hcollides =>
    Section.booked_eq_none_iff.mp h.free _ slot hbooks hcollides hslot

theorem spaceTime_aside {t b : SpaceTime} (hb : b ∈ s.spaceTimes)
    (hr : (Entity.spaceTime t).Rivals (.spaceTime b))
    (h : t.mayEnter ⟨s.lookup, now, replacing⟩ = .ok ()) :
    Context.collides ⟨s.lookup, now, replacing⟩ b.audit.id = false := by
  obtain ⟨slot, hslot, -, hfree⟩ := SpaceTime.exists_slot h
  obtain ⟨hroom, hday, htime⟩ := hr
  have hkey : b.slotKey = some ⟨t.roomNumber, t.dayOfWeek, slot⟩ := by
    rw [SpaceTime.slotKey, ← htime, hslot, hroom, hday]; rfl
  rw [SpaceTime.isFree, Bool.not_eq_true', List.any_eq_false] at hfree
  exact Bool.eq_false_iff.mpr (hfree b (List.mem_filter.mpr ⟨hb, beq_iff_eq.mpr hkey⟩))

theorem Distinct.course_aside {c b : Course} {old : Option CourseState} (hs : s.Distinct)
    (hb : b ∈ s.courses) (hr : (Entity.course c).Rivals (.course b))
    (h : c.check old ⟨s.lookup, now, replacing⟩ = .ok ()) :
    Context.collides ⟨s.lookup, now, replacing⟩ b.audit.id = false := by
  obtain ⟨student, subject, trimester, _, h⟩ := Course.passes_of_check h
  obtain ⟨hstudent, hsubject, htrimester⟩ := hr
  refine h.free b ((hs.course_fits student subject trimester).find?_eq_some_iff.mpr ⟨hb, ?_⟩)
  rw [← hstudent, ← hsubject, ← htrimester, h.studentId, h.subjectId, h.trimesterId]
  simp

/-- **No row that has the natural key of an accepted candidate stands against it.** The ends of a
prerequisite are looked at only when it is new. -/
theorem Distinct.collides_eq_false {b : Entity} (hs : s.Distinct)
    (h : e.mayEnter ⟨s.lookup, now, replacing⟩ = .ok () ∨
      ∃ old, e.mayReplace old ⟨s.lookup, now, replacing⟩ = .ok ())
    (hp : e.kind = .prerequisite → e.mayEnter ⟨s.lookup, now, replacing⟩ = .ok ())
    (hb : b ∈ s.entities e.kind) (hr : e.Rivals b) :
    Context.collides ⟨s.lookup, now, replacing⟩ (Audited.id b) = false := by
  have henters := Entity.mayEnter_of_accepted h
  cases e <;> obtain ⟨b, hmem, rfl⟩ := List.mem_map.mp hb
  case subject e =>
    have hfits := (hs.subject_fits e.codeName).find?_eq_some_iff.mpr ⟨hmem, beq_iff_eq.mpr hr.symm⟩
    exact require_not_any_eq_ok_iff.mp (henters (by rintro ⟨⟩) (by rintro ⟨⟩)) b hfits
  case prerequisite e => exact prerequisite_aside hmem hr (hp rfl)
  case trimester e =>
    have h := henters (by rintro ⟨⟩) (by rintro ⟨⟩)
    simp only [Entity.mayEnter, Trimester.mayEnter, check_bind_eq_ok_iff] at h
    have hfits := (hs.trimester_fits e.code).find?_eq_some_iff.mpr ⟨hmem, beq_iff_eq.mpr hr.symm⟩
    exact require_not_any_eq_ok_iff.mp h.2.2.2 b hfits
  case «section» e => exact section_aside hmem hr (henters (by rintro ⟨⟩) (by rintro ⟨⟩))
  case spaceTime e => exact spaceTime_aside hmem hr (henters (by rintro ⟨⟩) (by rintro ⟨⟩))
  case course e =>
    obtain ⟨_, h⟩ := Course.check_of_accepted h
    exact hs.course_aside hmem hr h
  case notification => exact hr.elim
  case student e =>
    have hfits :=
      (hs.student_fits e.universityId).find?_eq_some_iff.mpr ⟨hmem, beq_iff_eq.mpr hr.symm⟩
    exact require_not_any_eq_ok_iff.mp (henters (by rintro ⟨⟩) (by rintro ⟨⟩)) b hfits
  case faculty => exact hr.elim

/-- **A new candidate that is accepted has no rival.** -/
theorem Distinct.not_rivals {b : Entity} (hs : s.Distinct) (h : e.reviewNew s.lookup now = .ok ())
    (hb : b ∈ s.entities e.kind) : ¬ e.Rivals b := fun hr => by
  have hmay := (Entity.reviewNew_eq_ok_iff.mp h).2
  have hcollides := hs.collides_eq_false (.inl hmay) (fun _ => hmay) hb hr
  cases hcollides

/-- **A revision that is accepted has no rival but the row it replaces.** -/
theorem Distinct.eq_of_rivals {old b : Entity} (hs : s.Distinct)
    (hold : old ∈ s.entities old.kind) (h : e.reviewRevision old s.lookup now = .ok ())
    (hb : b ∈ s.entities e.kind) (hr : e.Rivals b) : b = old := by
  obtain ⟨⟨hkind, -, -⟩, -, hmay⟩ := Entity.reviewRevision_eq_ok_iff.mp h
  rw [hkind] at hold
  refine hs.eq hb hold ?_
  by_cases hp : e.kind = .prerequisite
  · obtain ⟨n, rfl⟩ := Entity.exists_prerequisite hp
    obtain ⟨o, rfl⟩ := Entity.exists_prerequisite (hkind.trans hp)
    obtain ⟨b, -, rfl⟩ := List.mem_map.mp hb
    -- the ends are those of the old one, so its rivals are rivals of the old one
    exact .inr (hr.symm.trans (beq_iff_eq.mp (require_eq_ok_iff.mp hmay)))
  · have hcollides := hs.collides_eq_false (.inr ⟨old, hmay⟩) (fun h => absurd h hp) hb hr
    exact .inl (Option.some.inj (bne_eq_false_iff_eq.mp hcollides)).symm

end Rivals

/-! ### Order -/

theorem reaches_of_perm {ps ps' : List Prerequisite} (hp : ps.Perm ps') (a b : Uuid) :
    (Graph.ofPrerequisites ps).Reaches a b ↔ (Graph.ofPrerequisites ps').Reaches a b :=
  (Graph.reaches_congr fun x _ y => Prerequisite.arrow_of_perm hp.symm x y).symm

/-- **Rearranged rows agree** on what the rules for a candidate look up. -/
theorem Distinct.agree_of_rearranges (hs : s.Distinct) (h : s.Rearranges s') :
    e.Agree s.lookup s'.lookup := by
  have hsubject := rowById_eq_of_perm (hs .subject) (fun _ => rfl) h.subjects
  have htrimester := rowById_eq_of_perm (hs .trimester) (fun _ => rfl) h.trimesters
  have hsection := rowById_eq_of_perm (hs .section) (fun _ => rfl) h.sections
  have hspaceTime := rowById_eq_of_perm (hs .spaceTime) (fun _ => rfl) h.spaceTimes
  have hstudent := rowById_eq_of_perm (hs .student) (fun _ => rfl) h.students
  have hfaculty := rowById_eq_of_perm (hs .faculty) (fun _ => rfl) h.faculties
  cases e
  case subject e => exact (hs.subject_fits e.codeName).find?_eq_of_perm h.subjects
  case prerequisite e =>
    refine ⟨fun a _ => congrArg _ (hsubject a), fun b _ => congrArg _ (hsubject b),
      fun a _ q => ?_, fun a _ b _ => ?_⟩
    · simp only [Lookup.prerequisitesOf, lookup, List.mem_filter, h.prerequisites.mem_iff]
    · rw [Prerequisite.closing_eq_none_iff, Prerequisite.closing_eq_none_iff]
      exact not_congr (reaches_of_perm h.prerequisites b a)
  case trimester e => exact (hs.trimester_fits e.code).find?_eq_of_perm h.trimesters
  case «section» e =>
    refine ⟨fun a _ => congrArg _ (hsubject a), fun t _ => congrArg _ (htrimester t),
      fun t _ => congrArg _ (hspaceTime t), fun f _ => hfaculty f, fun t _ key slot => ?_⟩
    simp only [Lookup.Books, lookup, List.mem_filter, h.sections.mem_iff]
  case spaceTime e =>
    intro key _ other
    simp only [lookup, List.mem_filter, h.spaceTimes.mem_iff]
  case course e =>
    exact ⟨fun a _ => congrArg _ (hstudent a), fun a _ => congrArg _ (hsubject a),
      fun t _ => congrArg _ (htrimester t), fun a _ => congrArg _ (hsection a),
      fun a _ b _ t _ => (hs.course_fits a b t).find?_eq_of_perm h.courses⟩
  case notification e =>
    exact ⟨fun t _ => congrArg _ (htrimester t), fun a _ => congrArg _ (hsection a),
      fun a _ => congrArg _ (hstudent a), fun a _ => congrArg _ (hfaculty a)⟩
  case student e => exact (hs.student_fits e.universityId).find?_eq_of_perm h.students
  case faculty => trivial

end Snapshot

end Enrollment
