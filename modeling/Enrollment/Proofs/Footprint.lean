import Enrollment.Proofs.Outcome
import Enrollment.Proofs.Prerequisite.Shortest
import Enrollment.Review

/-! # What the rules look up

The rules for a candidate look up little. Two lookups that agree on that little lead to verdicts
that are alike: both accept, or both refuse for a cause of one sort. What is said of the cause may
differ, since a cycle or a clash is reported as it is met.

* `Entity.Agree`: what the rules for a candidate look up.
* `alike_reviewNew`, `alike_reviewRevision`: it decides the verdict. -/

namespace Enrollment

/-! ### Verdicts that are alike -/

/-- Two refusals are of one sort; structural ones list the same violations. -/
def Refusal.Alike : Refusal → Refusal → Prop
  | .structural vs, .structural ws => vs = ws
  | .rule _, .rule _ => True
  | .conflict _, .conflict _ => True
  | _, _ => False

/-- Two verdicts accept, or refuse alike. -/
def Verdict.Alike : Verdict → Verdict → Prop
  | .ok _, .ok _ => True
  | .error refusal, .error refusal' => refusal.Alike refusal'
  | _, _ => False

theorem Refusal.Alike.refl (refusal : Refusal) : refusal.Alike refusal := by
  cases refusal <;> first | rfl | trivial

namespace Verdict

theorem Alike.refl (v : Verdict) : v.Alike v := by
  cases v
  · exact Refusal.Alike.refl _
  · trivial

theorem Alike.eq_ok {v v' : Verdict} (h : v.Alike v') (hv : v = .ok ()) : v' = .ok () := by
  subst hv
  cases v'
  · exact h.elim
  · rfl

theorem alike_rule {b b' : Bool} {broken broken' : Rule} (hb : b = b') :
    Alike (require b (.rule broken)) (require b' (.rule broken')) := by
  subst hb
  cases b <;> trivial

theorem alike_conflict {b b' : Bool} {clash clash' : Clash} (hb : b = b') :
    Alike (require b (.conflict clash)) (require b' (.conflict clash')) := by
  subst hb
  cases b <;> trivial

theorem Alike.bind {v v' : Verdict} {f f' : Unit → Verdict} (hv : v.Alike v')
    (hf : Alike (f ()) (f' ())) : Alike (v >>= f) (v' >>= f') := by
  cases v <;> cases v' <;> first | exact hv | exact hf | exact hv.elim

theorem alike_bind {α : Type} {x : Except Refusal α} {f f' : α → Verdict}
    (h : ∀ a, x = .ok a → Alike (f a) (f' a)) : Alike (x >>= f) (x >>= f') := by
  cases x
  · exact Refusal.Alike.refl _
  · exact h _ rfl

end Verdict

open Verdict

variable {l l' : Lookup} {now : Instant} {replacing : Option Uuid}

/-! ### Prerequisites -/

/-- What the rules for a prerequisite look up. -/
structure Prerequisite.Agree (p : Prerequisite) (l l' : Lookup) : Prop where
  subject : ∀ a ∈ p.subjectId, (l.subject a).isSome = (l'.subject a).isSome
  required : ∀ b ∈ p.requiredSubjectId, (l.subject b).isSome = (l'.subject b).isSome
  others : ∀ a ∈ p.subjectId, ∀ q, q ∈ l.prerequisitesOf a ↔ q ∈ l'.prerequisitesOf a
  cycle : ∀ a ∈ p.subjectId, ∀ b ∈ p.requiredSubjectId,
    Prerequisite.closing l a b = none ↔ Prerequisite.closing l' a b = none

theorem any_congr {α : Type} {as bs : List α} (h : ∀ a, a ∈ as ↔ a ∈ bs) (p : α → Bool) :
    as.any p = bs.any p := by
  rw [Bool.eq_iff_iff, List.any_eq_true, List.any_eq_true]
  simp only [h]

theorem Prerequisite.alike_mayEnter {p : Prerequisite} (h : p.Agree l l') :
    Alike (p.mayEnter ⟨l, now, replacing⟩) (p.mayEnter ⟨l', now, replacing⟩) := by
  unfold mayEnter
  refine alike_bind fun a ha => alike_bind fun b hb => ?_
  have ha : a ∈ p.subjectId := present_eq_ok_iff.mp ha
  have hb : b ∈ p.requiredSubjectId := present_eq_ok_iff.mp hb
  refine (alike_rule rfl).bind ?_
  refine (alike_rule (h.subject a ha)).bind ?_
  refine (alike_rule (h.required b hb)).bind ?_
  refine (alike_conflict (congrArg not (any_congr (h.others a ha) _))).bind ?_
  have hcycle := h.cycle a ha b hb
  dsimp only
  cases hc : closing l a b <;> cases hc' : closing l' a b <;> simp_all [Alike, Refusal.Alike]

/-! ### Sections -/

/-- A section of the trimester has booked a space time. -/
def Lookup.Books (l : Lookup) (trimester key slot : Uuid) : Prop :=
  ∃ other ∈ l.sectionsInTrimester trimester, other.audit.id = key ∧ other.uses slot = true

/-- What the rules for a section look up. -/
structure Section.Agree (s : Section) (l l' : Lookup) : Prop where
  subject : ∀ id ∈ s.subjectId, (l.subject id).isSome = (l'.subject id).isSome
  trimester : ∀ id ∈ s.trimesterId, (l.trimester id).isSome = (l'.trimester id).isSome
  spaceTime : ∀ id ∈ s.spaceTimeIds, (l.spaceTime id).isSome = (l'.spaceTime id).isSome
  faculty : ∀ id ∈ s.teacherIds, l.faculty id = l'.faculty id
  books : ∀ id ∈ s.trimesterId, ∀ key slot, l.Books id key slot ↔ l'.Books id key slot

namespace Section

theorem checkSlots_congr {seen ids : List Uuid}
    (h : ∀ id ∈ ids, (l.spaceTime id).isSome = (l'.spaceTime id).isSome) :
    checkSlots l seen ids = checkSlots l' seen ids := by
  induction ids generalizing seen with
  | nil => rfl
  | cons id ids ih =>
    unfold checkSlots
    rw [h id List.mem_cons_self, ih fun id hid => h id (List.mem_cons_of_mem _ hid)]

theorem checkTeachers_congr {ids : List Uuid} (h : ∀ id ∈ ids, l.faculty id = l'.faculty id) :
    checkTeachers l ids = checkTeachers l' ids := by
  induction ids with
  | nil => rfl
  | cons id ids ih =>
    unfold checkTeachers checkTeacher
    rw [h id List.mem_cons_self, ih fun id hid => h id (List.mem_cons_of_mem _ hid)]

theorem booked_eq_none_iff {s : Section} {ctx : Context} {trimester : Uuid} :
    s.booked ctx trimester = none ↔ ∀ key slot, ctx.lookup.Books trimester key slot →
      ctx.collides key = true → slot ∉ s.spaceTimeIds := by
  simp only [booked, List.findSome?_eq_none_iff, List.mem_filter, Option.map_eq_none_iff,
    List.find?_eq_none, Lookup.Books]
  constructor
  · rintro h key slot ⟨other, hother, rfl, huses⟩ hcollides hslot
    exact h other ⟨hother, hcollides⟩ slot hslot huses
  · intro h other ⟨hother, hcollides⟩ slot hslot huses
    exact h _ slot ⟨other, hother, rfl, huses⟩ hcollides hslot

theorem alike_mayEnter {s : Section} (h : s.Agree l l') :
    Alike (s.mayEnter ⟨l, now, replacing⟩) (s.mayEnter ⟨l', now, replacing⟩) := by
  unfold mayEnter
  refine alike_bind fun a ha => alike_bind fun t ht => ?_
  have ha : a ∈ s.subjectId := present_eq_ok_iff.mp ha
  have ht : t ∈ s.trimesterId := present_eq_ok_iff.mp ht
  refine (alike_rule rfl).bind ?_
  refine (alike_rule (h.subject a ha)).bind ?_
  refine (alike_rule (h.trimester t ht)).bind ?_
  dsimp only
  rw [checkSlots_congr h.spaceTime, checkTeachers_congr h.faculty]
  refine alike_bind fun _ _ => alike_bind fun _ _ => ?_
  have hbooked :
      s.booked ⟨l, now, replacing⟩ t = none ↔ s.booked ⟨l', now, replacing⟩ t = none := by
    simp only [booked_eq_none_iff, h.books t ht, Context.collides]
  cases hb : s.booked ⟨l, now, replacing⟩ t <;> cases hb' : s.booked ⟨l', now, replacing⟩ t <;>
    simp_all [Alike, Refusal.Alike]

/-- A section without what it is joined to. -/
def bare (s : Section) : Section := { s with spaceTimeIds := [], teacherIds := [] }

end Section

/-! ### Courses -/

/-- What the rules for a course look up. -/
structure Course.Agree (c : Course) (l l' : Lookup) : Prop where
  student : ∀ id ∈ c.studentId, (l.student id).isSome = (l'.student id).isSome
  subject : ∀ id ∈ c.subjectId, (l.subject id).isSome = (l'.subject id).isSome
  trimester : ∀ id ∈ c.trimesterId, (l.trimester id).isSome = (l'.trimester id).isSome
  sectionAt : ∀ id ∈ c.sectionId,
    (l.sectionAt id).map Section.bare = (l'.sectionAt id).map Section.bare
  courseFor : ∀ a ∈ c.studentId, ∀ b ∈ c.subjectId, ∀ t ∈ c.trimesterId,
    l.courseFor a b t = l'.courseFor a b t

namespace Course

theorem checkSection_congr {subject trimester id : Uuid}
    (h : (l.sectionAt id).map Section.bare = (l'.sectionAt id).map Section.bare) :
    checkSection l subject trimester id = checkSection l' subject trimester id := by
  unfold checkSection
  cases hs : l.sectionAt id <;> cases hs' : l'.sectionAt id <;>
    simp_all [Section.bare]

theorem attempt_bare (m : SeatMove) (s : Section) :
    (m.attempt s.bare).2 = (m.attempt s).2 := by
  have haudit : ∀ x : Section, x.bare.audit = x.audit := fun _ => rfl
  have hfull : ∀ x : Section, x.bare.isFull = x.isFull := fun _ => rfl
  have hrelease : m.releaseIn s.bare = (m.releaseIn s).bare := by
    simp only [SeatMove.releaseIn, haudit]
    split <;> rfl
  simp only [SeatMove.attempt, hrelease, haudit, hfull]
  split
  · split <;> rfl
  · rfl

theorem checkSeat_congr {m : SeatMove}
    (h : ∀ id ∈ m.take, (l.sectionAt id).map Section.bare = (l'.sectionAt id).map Section.bare) :
    checkSeat l m = checkSeat l' m := by
  unfold checkSeat
  cases ht : m.take with
  | none => rfl
  | some id =>
    have hsec := h id ht
    rw [Option.bind_some, Option.bind_some]
    cases hs : l.sectionAt id <;> cases hs' : l'.sectionAt id <;>
      simp only [hs, hs', Option.map_some, Option.map_none, reduceCtorEq, Option.some.injEq] at hsec
    · rfl
    · change (m.attempt _).2 = (m.attempt _).2
      rw [← attempt_bare, hsec, attempt_bare]

theorem section?_of_take {old : Option CourseState} {st : CourseState} {id : Uuid}
    (h : (SeatMove.between old st).take = some id) : st.section? = some id := by
  simp only [SeatMove.between] at h
  split at h
  · cases h
  · cases st <;> first | exact h | cases h

theorem alike_check {c : Course} {old : Option CourseState} (h : c.Agree l l') :
    Alike (c.check old ⟨l, now, replacing⟩) (c.check old ⟨l', now, replacing⟩) := by
  unfold check
  refine alike_bind fun a ha => alike_bind fun b hb => alike_bind fun t ht => ?_
  have ha : a ∈ c.studentId := present_eq_ok_iff.mp ha
  have hb : b ∈ c.subjectId := present_eq_ok_iff.mp hb
  have ht : t ∈ c.trimesterId := present_eq_ok_iff.mp ht
  refine alike_bind fun st hst => ?_
  obtain ⟨-, hsec, -⟩ := CourseState.of_eq_ok_iff.mp (mapError_eq_ok_iff.mp hst)
  refine (alike_rule (h.student a ha)).bind ?_
  refine (alike_rule (h.subject b hb)).bind ((alike_rule (h.trimester t ht)).bind ?_)
  have hseat : checkSeat l (.between old st) = checkSeat l' (.between old st) :=
    checkSeat_congr fun id hid => h.sectionAt id (hsec ▸ section?_of_take hid)
  dsimp only
  rw [h.courseFor a ha b hb t ht, hseat]
  split
  · rename_i id hid
    rw [checkSection_congr (h.sectionAt id (hsec ▸ hid))]
    exact .refl _
  · exact .refl _

end Course

/-! ### Notifications -/

/-- What the rules for a notification look up. -/
structure Notification.Agree (n : Notification) (l l' : Lookup) : Prop where
  trimester : ∀ id ∈ n.trimesterId, (l.trimester id).isSome = (l'.trimester id).isSome
  sectionAt : ∀ id ∈ n.sectionId, (l.sectionAt id).isSome = (l'.sectionAt id).isSome
  student : ∀ id ∈ n.targetUserId, (l.student id).isSome = (l'.student id).isSome
  faculty : ∀ id ∈ n.targetUserId, (l.faculty id).isSome = (l'.faculty id).isSome

theorem Notification.alike_mayEnter {n : Notification} (h : n.Agree l l') :
    Alike (n.mayEnter ⟨l, now, replacing⟩) (n.mayEnter ⟨l', now, replacing⟩) := by
  unfold mayEnter
  refine alike_bind fun target ht => alike_rule ?_
  obtain ⟨-, hrelations⟩ := Target.of_eq_ok_iff.mp (mapError_eq_ok_iff.mp ht)
  simp only [Target.relations] at hrelations
  unfold Target.isStored
  split at hrelations <;> simp only [Prod.mk.injEq] at hrelations
  · rfl
  · exact h.trimester _ hrelations.1.symm
  · exact h.sectionAt _ hrelations.2.1.symm
  · exact congrArg₂ or (h.student _ hrelations.2.2.symm) (h.faculty _ hrelations.2.2.symm)

/-! ### Space times -/

theorem SpaceTime.alike_mayEnter {s : SpaceTime}
    (h : ∀ key ∈ s.slotKey, ∀ other, other ∈ l.spaceTimesAt key ↔ other ∈ l'.spaceTimesAt key) :
    Alike (s.mayEnter ⟨l, now, replacing⟩) (s.mayEnter ⟨l', now, replacing⟩) := by
  unfold mayEnter
  refine alike_bind fun _ _ => (alike_rule rfl).bind ?_
  split
  · rename_i key hkey
    exact alike_conflict (congrArg not (any_congr (h key hkey) _))
  · exact .refl _

/-! ### Candidates of all kinds -/

namespace Entity

/-- What the rules for a candidate look up. -/
def Agree (e : Entity) (l l' : Lookup) : Prop :=
  match e with
  | subject e => l.subjectByCode e.codeName = l'.subjectByCode e.codeName
  | prerequisite e => e.Agree l l'
  | trimester e => l.trimesterByCode e.code = l'.trimesterByCode e.code
  | .section e => e.Agree l l'
  | spaceTime e =>
    ∀ key ∈ e.slotKey, ∀ other, other ∈ l.spaceTimesAt key ↔ other ∈ l'.spaceTimesAt key
  | course e => e.Agree l l'
  | notification e => e.Agree l l'
  | student e => l.studentByUniversityId e.universityId = l'.studentByUniversityId e.universityId
  | faculty _ => True

variable {e old : Entity}

theorem alike_mayEnter (h : e.Agree l l') :
    Alike (e.mayEnter ⟨l, now, replacing⟩) (e.mayEnter ⟨l', now, replacing⟩) := by
  cases e
  case subject e => simp only [mayEnter, Subject.mayEnter, show _ = _ from h]; exact .refl _
  case prerequisite e => exact Prerequisite.alike_mayEnter h
  case trimester e => simp only [mayEnter, Trimester.mayEnter, show _ = _ from h]; exact .refl _
  case «section» e => exact Section.alike_mayEnter h
  case spaceTime e => exact SpaceTime.alike_mayEnter h
  case course e => exact Course.alike_check h
  case notification e => exact Notification.alike_mayEnter h
  case student e => simp only [mayEnter, Student.mayEnter, show _ = _ from h]; exact .refl _
  case faculty e => exact .refl _

theorem alike_mayReplace (h : e.Agree l l') :
    Alike (e.mayReplace old ⟨l, now, replacing⟩) (e.mayReplace old ⟨l', now, replacing⟩) := by
  unfold mayReplace
  split
  · exact .refl _
  · exact alike_bind fun _ _ => Section.alike_mayEnter h
  · exact Course.alike_check h
  · exact alike_bind fun _ _ => Notification.alike_mayEnter h
  · exact alike_mayEnter h

/-- **What the rules for a new row look up decides the verdict.** -/
theorem alike_reviewNew (h : e.Agree l l') :
    Alike (e.reviewNew l now) (e.reviewNew l' now) :=
  alike_bind fun _ _ => alike_mayEnter h

/-- **What the rules for a revision look up decides the verdict**, whatever is revised. -/
theorem alike_reviewRevision (h : e.Agree l l') :
    Alike (e.reviewRevision old l now) (e.reviewRevision old l' now) :=
  alike_bind fun _ _ => alike_bind fun _ _ => alike_mayReplace h

end Entity

end Enrollment
