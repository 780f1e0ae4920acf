import Enrollment.Proofs.Snapshot.Reentry

/-! # Entering what is stored

To enter a thing that is stored is refused, whatever else is stored, if things of its kind are told
apart by a natural key: it is one of those that have its key, and on entry every stored row stands
against it. Notifications and members of the faculty have no such key. No rule looks at what is
stored of their kind, so they may be entered again and again.

* `Entity.rivals_self`: a thing with a natural key whose fields are right is its own rival.
* `not_mayEnter_of_rivals`: the rules refuse what has a rival that is stored.
* `reviewNew_without_eq`: what has no key is judged as if it were not stored.
* `entering_stored`: the two together. -/

namespace Enrollment

/-- The kinds whose things are told apart by a natural key. -/
def Kind.isKeyed : Kind → Bool
  | .notification | .faculty => false
  | _ => true

namespace Snapshot

variable {s : Snapshot} {e : Entity} {now : Instant} {l : Lookup}

/-- On entry a stored row with the key stands against a candidate, whichever is found first. -/
theorem require_free_ne_ok {α : Type} [Audited α] {rows : List α} {q : α → Bool} {a : α}
    (ha : a ∈ rows) (hq : q a = true) (refusal : Refusal) :
    require (!(rows.find? q).any fun b => Context.collides ⟨l, now, none⟩ (Audited.id b))
      refusal ≠ .ok () := by
  intro h
  obtain ⟨b, hb⟩ := Option.isSome_iff_exists.mp (List.find?_isSome.mpr ⟨a, ha, hq⟩)
  cases require_not_any_eq_ok_iff.mp h b hb

/-- **No candidate passes the rules for a new row** if a stored row has its natural key, whatever
else is stored. -/
theorem not_mayEnter_of_rivals {b : Entity} (hb : b ∈ s.entities e.kind) (hr : e.Rivals b) :
    e.mayEnter ⟨s.lookup, now, none⟩ ≠ .ok () := by
  intro h
  cases e <;> obtain ⟨b, hmem, rfl⟩ := List.mem_map.mp hb
  case subject e =>
    have hfits : (b.codeName == e.codeName) = true := beq_iff_eq.mpr (Eq.symm hr)
    exact require_free_ne_ok hmem hfits _ h
  case prerequisite => cases prerequisite_aside hmem hr h
  case trimester e =>
    have hfits : (b.code == e.code) = true := beq_iff_eq.mpr (Eq.symm hr)
    simp only [Entity.mayEnter, Trimester.mayEnter, check_bind_eq_ok_iff] at h
    exact require_free_ne_ok hmem hfits _ h.2.2.2
  case «section» => cases section_aside hmem hr h
  case spaceTime => cases spaceTime_aside hmem hr h
  case course e =>
    obtain ⟨student, subject, trimester, _, hpasses⟩ := Course.passes_of_check h
    obtain ⟨hstudent, hsubject, htrimester⟩ := hr
    have hfits : ∃ c ∈ s.courses, (c.studentId == some student && c.subjectId == some subject &&
        c.trimesterId == some trimester) = true := by
      refine ⟨b, hmem, ?_⟩
      rw [← hstudent, ← hsubject, ← htrimester, hpasses.studentId, hpasses.subjectId,
        hpasses.trimesterId]
      simp
    obtain ⟨c, hc⟩ := Option.isSome_iff_exists.mp (List.find?_isSome.mpr hfits)
    cases hpasses.free c hc
  case notification => exact hr.elim
  case student e =>
    have hfits : (b.universityId == e.universityId) = true := beq_iff_eq.mpr (Eq.symm hr)
    exact require_free_ne_ok hmem hfits _ h
  case faculty => exact hr.elim

/-- **A thing with a natural key is its own rival**, once its fields are as they have to be: a
section has to book something. -/
theorem rivals_self (hv : e.violations = []) (hkey : e.kind.isKeyed = true) : e.Rivals e := by
  cases e
  case «section» =>
    obtain ⟨slot, hslot⟩ := List.exists_mem_of_ne_nil _ (Section.bounds_of_fields hv).2.2
    exact ⟨rfl, slot, hslot, hslot⟩
  case notification => cases hkey
  case faculty => cases hkey
  case spaceTime => exact ⟨rfl, rfl, rfl⟩
  case course => exact ⟨rfl, rfl, rfl⟩
  all_goals exact rfl

/-- **What has no key** is judged as if it were not stored. -/
theorem reviewNew_without_eq (hkey : e.kind.isKeyed = false) :
    e.reviewNew s.lookup now = e.reviewNew (s.without e).lookup now := by
  cases e
  case notification => rfl
  case faculty => rfl
  all_goals cases hkey

/-- **To enter what is stored is refused**, whatever else is stored and whenever it is, if its kind
has a natural key. A notification or a member of the faculty has none, and is judged as if it were
not stored. -/
theorem entering_stored (s : Snapshot) (e : Entity) (he : e ∈ s.entities e.kind) (now : Instant) :
    (e.kind.isKeyed = true → ∃ refusal, e.reviewNew s.lookup now = .error refusal) ∧
    (e.kind.isKeyed = false →
      e.reviewNew s.lookup now = e.reviewNew (s.without e).lookup now) := by
  refine ⟨fun hkey => ?_, reviewNew_without_eq⟩
  cases hreview : e.reviewNew s.lookup now with
  | error refusal => exact ⟨refusal, rfl⟩
  | ok =>
    obtain ⟨hv, hmay⟩ := Entity.reviewNew_eq_ok_iff.mp hreview
    exact absurd hmay (not_mayEnter_of_rivals he (rivals_self hv hkey))

namespace Sample

open Enrollment.Sample Registrar.Sample

def teacher : Entity := .faculty ⟨block 9, "Teacher", "teacher@university", .teacher⟩

/-- A notification for everybody. -/
def notice : Entity := .notification ⟨block 10, .global, "Welcome", "Welcome", none, none, none⟩

def posted : Snapshot := Snapshot.empty.putAll [teacher, notice]

end Sample

open Enrollment.Sample Registrar.Sample in
theorem entering_of_sample :
    Entity.course course ∈ Sample.snapshot.entities .course ∧
    (∃ refusal, (Entity.course course).reviewNew Sample.snapshot.lookup noon = .error refusal) ∧
    Sample.notice ∈ Sample.posted.entities .notification ∧
    Sample.notice.reviewNew Sample.posted.lookup noon =
      Sample.notice.reviewNew (Sample.posted.without Sample.notice).lookup noon := by
  have hcourse : Entity.course course ∈ Sample.snapshot.entities .course := by decide +kernel
  have hnotice : Sample.notice ∈ Sample.posted.entities .notification := by decide +kernel
  exact ⟨hcourse, (entering_stored _ (.course course) hcourse noon).1 rfl, hnotice,
    (entering_stored _ Sample.notice hnotice noon).2 rfl⟩

/-- What has no natural key may be entered again while it is stored. -/
theorem entered_again :
    Sample.teacher ∈ Sample.posted.entities .faculty ∧
    Sample.notice ∈ Sample.posted.entities .notification ∧
    ∀ now, Sample.teacher.reviewNew Sample.posted.lookup now = .ok () ∧
      Sample.notice.reviewNew Sample.posted.lookup now = .ok () := by
  have hteacher : Sample.teacher.violations = [] := by decide +kernel
  have hnotice : Sample.notice.violations = [] := by decide +kernel
  refine ⟨by decide +kernel, by decide +kernel, fun now => ⟨?_, ?_⟩⟩
  · exact Entity.reviewNew_eq_ok_iff.mpr ⟨hteacher, rfl⟩
  · exact Entity.reviewNew_eq_ok_iff.mpr ⟨hnotice, rfl⟩

end Snapshot

end Enrollment
