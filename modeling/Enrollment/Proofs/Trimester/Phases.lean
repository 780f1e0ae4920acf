import Enrollment.Proofs.Outcome
import Enrollment.Proofs.Time.Chronology
import Enrollment.Trimester.Phase

/-! # Phases follow the calendar

A status tells how far a trimester has come. A phase begins when the bound before it is reached and
lasts until the one after it, both instants included, except that the first phase is over when its
bound is reached. So phases can meet in a bound, and nowhere else, and none comes again after a
later one.

* `allows_eq_ok_iff`: what a status asks of the calendar depends on its phase alone.
* `exists_bound_between`: a bound lies between an instant of a later phase and one of an earlier.
* `phases_follow`: at every instant there is a phase, at most instants there is one only, and phases
  do not go back. -/

namespace Enrollment

/-- How far a trimester has come. The last two statuses belong to one phase. -/
def TrimesterStatus.phase : TrimesterStatus → Nat
  | .upcoming => 0
  | .courseSelection => 1
  | .sectionCreation => 2
  | .sectionSelection => 3
  | .ongoing | .completed => 4

theorem TrimesterStatus.phase_le (a : TrimesterStatus) : a.phase ≤ 4 := by cases a <;> decide

theorem TrimesterStatus.exists_phase {n : Nat} (h : n ≤ 4) :
    ∃ a : TrimesterStatus, a.phase = n := by
  match n, h with
  | 0, _ => exact ⟨.upcoming, rfl⟩
  | 1, _ => exact ⟨.courseSelection, rfl⟩
  | 2, _ => exact ⟨.sectionCreation, rfl⟩
  | 3, _ => exact ⟨.sectionSelection, rfl⟩
  | 4, _ => exact ⟨.ongoing, rfl⟩

namespace Calendar

variable {c : Calendar} {a b : TrimesterStatus} {t t₁ t₂ x y : Instant} {m n : Nat}

/-- The bound after a phase, if it is set. -/
def bound (c : Calendar) (n : Nat) : Option Instant := c.boundaries[n]?.join

/-- An instant is in a phase: the bound before the phase has been reached, and the one after it has
not passed. Both have to be set, but the first phase has no bound before it, and may have none after
it, and the last phase has none after it. -/
def InPhase (c : Calendar) (t : Instant) : Nat → Prop
  | 0 => ∀ x ∈ c.bound 0, t < x
  | n + 1 => (∃ x ∈ c.bound n, x ≤ t) ∧ (n + 1 < 4 → ∃ y ∈ c.bound (n + 1), t ≤ y)

/-! ### What a status asks of the calendar -/

theorem checkPeriod_eq_ok_iff {p : Period} : c.checkPeriod p t = .ok () ↔
    (∃ x ∈ (p.ends c).1, x ≤ t) ∧ ∃ y ∈ (p.ends c).2, t ≤ y := by
  unfold checkPeriod
  rcases p.ends c with ⟨_ | start, _ | stop⟩
  case some.some =>
    simp only [ite_eq_ok_iff, Window.any_contains_of?, Option.mem_def, Option.some.injEq,
      exists_eq_left']
  all_goals simp

theorem checkEnded_eq_ok_iff : c.checkEnded a t = .ok () ↔
    ∃ x ∈ c.sectionRegistrationEnd, x ≤ t := by
  unfold checkEnded
  cases c.sectionRegistrationEnd with
  | none => simp
  | some stop =>
    simp only [ite_eq_ok_iff, Instant.isReached, decide_eq_true_eq, Option.mem_def,
      Option.some.injEq, exists_eq_left']

theorem allows_upcoming_eq_ok_iff : c.allows .upcoming t = .ok () ↔
    ∀ x ∈ c.courseSelectionStart, t < x := by
  unfold allows
  cases c.courseSelectionStart with
  | none => simp
  | some start =>
    simp only [ite_eq_ok_iff, Instant.isAhead, decide_eq_true_eq, Option.mem_def,
      Option.some.injEq, forall_eq']

/-- **What a status asks of the calendar** depends on its phase alone. -/
theorem allows_eq_ok_iff : c.allows a t = .ok () ↔ c.InPhase t a.phase := by
  cases a
  case upcoming => exact allows_upcoming_eq_ok_iff
  case ongoing =>
    exact checkEnded_eq_ok_iff.trans (and_iff_left fun h => absurd h (Nat.lt_irrefl 4)).symm
  case completed =>
    exact checkEnded_eq_ok_iff.trans (and_iff_left fun h => absurd h (Nat.lt_irrefl 4)).symm
  all_goals
    refine checkPeriod_eq_ok_iff.trans (and_congr_right fun _ => ?_)
    exact (imp_iff_right (by decide)).symm

/-! ### The order of the bounds -/

theorem mem_boundaries_of_bound (h : x ∈ c.bound n) : some x ∈ c.boundaries :=
  List.mem_of_getElem? (Option.join_eq_some_iff.mp h)

theorem bound_le_bound (hc : c.isChronological = true) (hmn : m ≤ n) (hx : x ∈ c.bound m)
    (hy : y ∈ c.bound n) : x ≤ y := by
  rcases Nat.eq_or_lt_of_le hmn with rfl | hmn
  · obtain rfl := Option.some.inj (hx.symm.trans hy)
    exact Instant.le_iff.mpr (Int.le_refl _)
  · exact Instant.le_of_isChronological hc hmn (Option.join_eq_some_iff.mp hx)
      (Option.join_eq_some_iff.mp hy)

/-- **A bound lies between** an instant at which a later phase is allowed and one at which an
earlier phase is. -/
theorem exists_bound_between (hc : c.isChronological = true)
    (hstart : c.courseSelectionStart.isSome = true) (hba : b.phase < a.phase)
    (ha : c.allows a t₁ = .ok ()) (hb : c.allows b t₂ = .ok ()) :
    ∃ x, some x ∈ c.boundaries ∧ t₂ ≤ x ∧ x ≤ t₁ := by
  have hlast := a.phase_le
  have h₁ := allows_eq_ok_iff.mp ha
  have h₂ := allows_eq_ok_iff.mp hb
  generalize a.phase = n at hba hlast h₁
  generalize b.phase = m at hba h₂
  obtain ⟨k, rfl⟩ : ∃ k, n = k + 1 := ⟨n - 1, by omega⟩
  obtain ⟨x, hx, hxt⟩ := h₁.1
  -- the earlier phase is over at its own bound, which is not after that of the later one
  obtain ⟨y, hy, hty⟩ : ∃ y ∈ c.bound m, t₂ ≤ y := by
    cases m with
    | zero =>
      obtain ⟨y, hy⟩ := Option.isSome_iff_exists.mp hstart
      exact ⟨y, hy, Instant.le_iff.mpr (Int.le_of_lt (h₂ y hy))⟩
    | succ m => exact h₂.2 (by omega)
  have hyx : y ≤ x := bound_le_bound hc (by omega) hy hx
  exact ⟨x, mem_boundaries_of_bound hx, Instant.le_iff.mpr (Int.le_trans hty hyx), hxt⟩

/-! ### The phases of an instant -/

theorem inPhase_or_begun (hset : ∀ n < 4, ∃ x, x ∈ c.bound n) (t : Instant) (hn : n ≤ 4) :
    (∃ m < n, c.InPhase t m) ∨ ∀ m, n = m + 1 → ∃ x ∈ c.bound m, x ≤ t := by
  induction n with
  | zero => exact .inr nofun
  | succ n ih =>
    obtain ⟨x, hx⟩ := hset n hn
    rcases ih (by omega) with ⟨m, hmn, hm⟩ | hbegun
    · exact .inl ⟨m, by omega, hm⟩
    · by_cases hxt : x ≤ t
      · refine .inr fun m hm => ⟨x, ?_, hxt⟩
        obtain rfl := Nat.succ.inj hm
        exact hx
      · have htx : t < x := Instant.lt_iff.mpr (Int.not_le.mp hxt)
        refine .inl ⟨n, Nat.lt_succ_self n, ?_⟩
        cases n with
        | zero =>
          intro y hy
          obtain rfl := Option.some.inj (hx.symm.trans hy)
          exact htx
        | succ n => exact ⟨hbegun n rfl, fun _ => ⟨x, hx, Instant.le_iff.mpr (Int.le_of_lt htx)⟩⟩

/-- A calendar with all its bounds allows some status at every instant. -/
theorem exists_allows (hset : ∀ o ∈ c.boundaries, o.isSome = true) (t : Instant) :
    ∃ a, c.allows a t = .ok () := by
  have hbound : ∀ n < 4, ∃ x, x ∈ c.bound n := by
    intro n hn
    have hlength : n < c.boundaries.length := hn
    obtain ⟨x, hx⟩ := Option.isSome_iff_exists.mp (hset _ (List.getElem_mem hlength))
    exact ⟨x, Option.join_eq_some_iff.mpr (List.getElem?_eq_some_iff.mpr ⟨hlength, hx⟩)⟩
  obtain ⟨n, hn, hphase⟩ : ∃ n ≤ 4, c.InPhase t n := by
    rcases inPhase_or_begun hbound t (Nat.le_refl 4) with ⟨m, hm, h⟩ | hbegun
    · exact ⟨m, by omega, h⟩
    · exact ⟨4, Nat.le_refl 4, hbegun 3 rfl, fun h => absurd h (Nat.lt_irrefl 4)⟩
  obtain ⟨a, rfl⟩ := TrimesterStatus.exists_phase hn
  exact ⟨a, allows_eq_ok_iff.mpr hphase⟩

/-- **The status goes with the calendar**, if the bounds of the calendar that are set are in order.
Once all are set, some status is allowed at every instant, and at each instant that is not a bound
the statuses of one phase are allowed and no others. Once the first is set, no phase comes before
one that has been allowed earlier, even if other bounds are missing or fall together. -/
theorem phases_follow (c : Calendar) (hc : c.isChronological = true) :
    ((∀ o ∈ c.boundaries, o.isSome = true) → ∀ now,
      (∃ a, c.allows a now = .ok ()) ∧
      (some now ∉ c.boundaries → ∃ a : TrimesterStatus, ∀ b,
        c.allows b now = .ok () ↔ b.phase = a.phase)) ∧
    (c.courseSelectionStart.isSome = true → ∀ t₁ t₂, t₁ < t₂ → ∀ a b,
      c.allows a t₁ = .ok () → c.allows b t₂ = .ok () → a.phase ≤ b.phase) := by
  refine ⟨fun hset now => ⟨exists_allows hset now, fun hnow => ?_⟩,
    fun hstart t₁ t₂ ht a b ha hb => ?_⟩
  · have hstart := hset c.courseSelectionStart List.mem_cons_self
    have hsame : ∀ {a b}, c.allows a now = .ok () → c.allows b now = .ok () →
        a.phase ≤ b.phase := by
      intro a b ha hb
      refine Nat.le_of_not_lt fun hba => ?_
      obtain ⟨x, hx, hle, hge⟩ := exists_bound_between hc hstart hba ha hb
      exact hnow (Instant.eq_of_place_eq (Int.le_antisymm hge hle) ▸ hx)
    obtain ⟨a, ha⟩ := exists_allows hset now
    refine ⟨a, fun b => ⟨fun hb => Nat.le_antisymm (hsame hb ha) (hsame ha hb), fun hphase => ?_⟩⟩
    rw [allows_eq_ok_iff, hphase, ← allows_eq_ok_iff]
    exact ha
  · refine Nat.le_of_not_lt fun hba => ?_
    obtain ⟨x, -, hle, hge⟩ := exists_bound_between hc hstart hba ha hb
    exact Int.not_lt.mpr (Int.le_trans hle hge) ht

namespace Sample

def minute (n : Int) : Instant := { Instant.epoch with second := 60 * n }

/-- A calendar in which section creation is over as soon as it begins. -/
def tight : Calendar := ⟨some (minute 10), some (minute 20), some (minute 20), some (minute 30)⟩

end Sample

/-- Where two bounds fall together three phases meet, and they come in their order; off the bounds
there is one phase. -/
theorem phases_of_tight : (∃ a, Sample.tight.allows a (Sample.minute 20) = .ok ()) ∧
    (∃ a : TrimesterStatus, ∀ b,
      Sample.tight.allows b (Sample.minute 21) = .ok () ↔ b.phase = a.phase) ∧
    ∀ a, Sample.tight.allows a (Sample.minute 20) = .ok () → 1 ≤ a.phase := by
  have hall := phases_follow Sample.tight (by decide +kernel)
  have hset := hall.1 (by decide)
  refine ⟨(hset _).1, (hset _).2 (by decide +kernel), fun a ha => ?_⟩
  exact hall.2 rfl (Sample.minute 10) (Sample.minute 20) (by decide +kernel) .courseSelection a
    rfl ha

end Calendar

end Enrollment
