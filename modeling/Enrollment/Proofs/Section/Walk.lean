import Enrollment.Proofs.Section.Counting
import Mathlib.Tactic.IntervalCases

/-! # Walks of states

A course goes from state to state, and the move from each of its seats to the next is put to one and
the same section. Whatever the states are, the section keeps all but its counter, the counter stays
between nothing and the room there is, and none that is computed on the way overflows. If the
section has room for every move, only the first and the last seat count: what lies between cancels.

* `Recounts.attempt`, `recounts_walked`: a move recounts the section, and so does a walk.
* `Recounts.isExact`: no counter overflows.
* `toInt_walked`: a walk that is nowhere refused moves the counter as its two ends do.
* `counter_telescopes`: all of it, for every walk. -/

namespace Enrollment

namespace SeatMove

/-- No counter that a move computes for a section overflows. -/
structure IsExact (m : SeatMove) (s : Section) : Prop where
  given : m.release = some s.audit.id →
    (s.currentCapacity - 1).toInt = s.currentCapacity.toInt - 1
  taken : m.take = some s.audit.id → (m.releaseIn s).isFull = false →
    ((m.releaseIn s).currentCapacity + 1).toInt = (m.releaseIn s).currentCapacity.toInt + 1

section Walked

variable (states : Nat → CourseState) (s : Section)

/-- The move from one state of a walk to the next. -/
def moveAt (k : Nat) : SeatMove := between (some (states k)) (states (k + 1))

/-- What the first moves of a walk leave of a section. -/
def walked : Nat → Section
  | 0 => s
  | k + 1 => ((moveAt states k).attempt (walked k)).1

/-- Whether the section has room for the next move. -/
def verdictAt (k : Nat) : Verdict := ((moveAt states k).attempt (walked states s k)).2

end Walked

end SeatMove

/-! ### One move -/

/-- The second section is the first but for its counter, which lies between nothing and the room
there is. -/
structure Section.Recounts (s s' : Section) : Prop where
  fields : s' = { s with currentCapacity := s'.currentCapacity }
  nonneg : 0 ≤ s'.currentCapacity
  within : s'.currentCapacity ≤ s.maxCapacity

namespace Section.Recounts

open SeatMove

variable {s s' : Section}

theorem id_eq (h : s.Recounts s') : s'.audit.id = s.audit.id := by rw [h.fields]

theorem lt_of_isFull (h : s.Recounts s') (hfull : s'.isFull = false) :
    s'.currentCapacity < s.maxCapacity := by
  have hmost : s'.maxCapacity = s.maxCapacity := by rw [h.fields]
  rw [isFull, decide_eq_false_iff_not, Int32.not_le, hmost] at hfull
  exact hfull

/-- **A move recounts the section**, if only by leaving it as it is. -/
theorem attempt (h : s.Recounts s') (before after : Option Uuid) :
    s.Recounts ((ofSeats before after).attempt s').1 := by
  obtain ⟨-, -, heq⟩ | ⟨hroom, heq⟩ := attempt_ofSeats_cases before after s'
  · rw [heq]
    exact h
  · have hlt (ht : (ofSeats before after).take = some s'.audit.id) :
        (ofSeats before after).release ≠ some s'.audit.id ∧
          s'.currentCapacity < s.maxCapacity :=
      ⟨release_ne_of_take ht, h.lt_of_isFull (hroom ht)⟩
    rw [heq]
    exact ⟨by rw [h.fields], counter_nonneg h.nonneg hlt, counter_le h.nonneg h.within hlt⟩

/-- **No counter overflows**: one that is not negative can lose a seat, and one below the room that
there is can gain one. -/
theorem isExact (h : s.Recounts s') (before after : Option Uuid) :
    (ofSeats before after).IsExact s' := by
  refine ⟨fun _ => toInt_sub_one ?_, fun ht hfull => ?_⟩
  · rw [← Int32.toInt_zero]
    exact Int32.le_iff_toInt_le.mp h.nonneg
  · rw [releaseIn_of_ne (release_ne_of_take ht)] at hfull ⊢
    exact toInt_add_one_of_lt (h.lt_of_isFull hfull)

end Section.Recounts

namespace SeatMove

variable {states : Nat → CourseState} {s : Section} {k n : Nat}

theorem walked_succ_of_refused (h : verdictAt states s k ≠ .ok ()) :
    (walked states s k).isFull = true ∧ walked states s (k + 1) = walked states s k := by
  obtain ⟨-, hfull, heq⟩ | ⟨-, heq⟩ :=
    attempt_ofSeats_cases (states k).seat (states (k + 1)).seat (walked states s k)
  · exact ⟨hfull, congrArg Prod.fst heq⟩
  · exact absurd (congrArg Prod.snd heq) h

theorem walked_succ_of_ok (h : verdictAt states s k = .ok ()) :
    (walked states s (k + 1)).currentCapacity = (moveAt states k).counter
        (walked states s k).audit.id (walked states s k).currentCapacity ∧
      ((moveAt states k).take = some (walked states s k).audit.id →
        (walked states s k).isFull = false) := by
  obtain ⟨-, -, heq⟩ | ⟨hroom, heq⟩ :=
    attempt_ofSeats_cases (states k).seat (states (k + 1)).seat (walked states s k)
  · cases h.symm.trans (congrArg Prod.snd heq)
  · exact ⟨congrArg (·.1.currentCapacity) heq, hroom⟩

/-! ### Walks -/

theorem seatIn_le_toInt {seat : Option Uuid} (hnonneg : 0 ≤ s.currentCapacity)
    (hheld : seat = some s.audit.id → 1 ≤ s.currentCapacity) :
    (seatIn s.audit.id seat : Int) ≤ s.currentCapacity.toInt := by
  unfold seatIn
  split
  · exact Int32.le_iff_toInt_le.mp (hheld ‹_›)
  · exact Int32.le_iff_toInt_le.mp hnonneg

theorem recounts_walked (hnonneg : 0 ≤ s.currentCapacity)
    (hle : s.currentCapacity ≤ s.maxCapacity) (n : Nat) : s.Recounts (walked states s n) := by
  induction n with
  | zero => exact ⟨rfl, hnonneg, hle⟩
  | succ n ih => exact ih.attempt (states n).seat (states (n + 1)).seat

/-- **The seats between the two ends of a walk cancel out.** A seat that the section gives back on
the way was taken from it before, so its counter is not at nothing then. -/
theorem toInt_walked (hnonneg : 0 ≤ s.currentCapacity) (hle : s.currentCapacity ≤ s.maxCapacity)
    (hheld : (states 0).seat = some s.audit.id → 1 ≤ s.currentCapacity)
    (hok : ∀ k < n, verdictAt states s k = .ok ()) :
    (walked states s n).currentCapacity.toInt + seatIn s.audit.id (states 0).seat =
      s.currentCapacity.toInt + seatIn s.audit.id (states n).seat := by
  induction n with
  | zero => rfl
  | succ n ih =>
    have hih := ih fun k hk => hok k (by omega)
    have hre : s.Recounts (walked states s n) := recounts_walked hnonneg hle n
    obtain ⟨heq, hroom⟩ := walked_succ_of_ok (hok n (by omega))
    rw [hre.id_eq] at heq hroom
    have hpos (hb : (states n).seat = some s.audit.id)
        (_ : (states (n + 1)).seat ≠ some s.audit.id) :
        0 < (walked states s n).currentCapacity.toInt := by
      have hfirst := seatIn_le_toInt hnonneg hheld
      have hone : seatIn s.audit.id (states n).seat = 1 := if_pos hb
      omega
    have hstep : ((moveAt states n).counter s.audit.id
          (walked states s n).currentCapacity).toInt + seatIn s.audit.id (states n).seat =
        (walked states s n).currentCapacity.toInt + seatIn s.audit.id (states (n + 1)).seat :=
      (toInt_counter_ofSeats hre.within hpos fun ht _ => hre.lt_of_isFull (hroom ht)).1
    rw [heq]
    omega

/-- **Seats telescope.** Put the moves of any walk to any section whose counter lies between nothing
and the room there is. After every move the section is the same but for its counter, which still
lies there; no counter overflows; and a move is refused only by a section that is full, which stays
as it is. If none is refused, and the section counts the seat that is held to begin with, if it is
one of its own, then the walk has given back the first seat and taken the last. -/
theorem counter_telescopes (states : Nat → CourseState) (s : Section) (n : Nat)
    (hnonneg : 0 ≤ s.currentCapacity) (hle : s.currentCapacity ≤ s.maxCapacity) :
    (∀ k ≤ n, s.Recounts (walked states s k)) ∧
      (∀ k < n, (moveAt states k).IsExact (walked states s k)) ∧
      (∀ k < n, verdictAt states s k ≠ .ok () →
        (walked states s k).isFull = true ∧ walked states s (k + 1) = walked states s k) ∧
      ((∀ k < n, verdictAt states s k = .ok ()) →
        ((states 0).seat = some s.audit.id → 1 ≤ s.currentCapacity) →
        (walked states s n).currentCapacity.toInt =
          s.currentCapacity.toInt - seatIn s.audit.id (states 0).seat +
            seatIn s.audit.id (states n).seat) := by
  have hre (k : Nat) : s.Recounts (walked states s k) := recounts_walked hnonneg hle k
  refine ⟨fun k _ => hre k, fun k _ => (hre k).isExact (states k).seat (states (k + 1)).seat,
    fun k _ => walked_succ_of_refused, fun hok hheld => ?_⟩
  have hends := toInt_walked hnonneg hle hheld hok
  omega

namespace Sample

/-- A section whose only seat is taken. -/
def single : Section := ⟨.fresh ⟨1⟩ "registrar" .epoch, some ⟨3⟩, some ⟨4⟩, 1, 1, [⟨5⟩], []⟩

/-- A course leaves the section for another one, comes back, is completed and is dropped. -/
def wandering : Nat → CourseState
  | 0 => .registered ⟨1⟩
  | 1 => .registered ⟨2⟩
  | 2 => .selected
  | 3 => .registered ⟨1⟩
  | 4 => .completed ⟨1⟩ Grade.highest
  | _ => .dropped ⟨1⟩

end Sample

theorem counter_of_wandering :
    (0 ≤ Sample.single.currentCapacity ∧
        Sample.single.currentCapacity ≤ Sample.single.maxCapacity) ∧
      (∀ k < 5, verdictAt Sample.wandering Sample.single k = .ok ()) ∧
      ((Sample.wandering 0).seat = some Sample.single.audit.id ∧
        1 ≤ Sample.single.currentCapacity) ∧
      (∀ k ≤ 5, Sample.single.Recounts (walked Sample.wandering Sample.single k)) ∧
      (walked Sample.wandering Sample.single 4).currentCapacity.toInt = 1 ∧
      (walked Sample.wandering Sample.single 5).currentCapacity.toInt = 0 := by
  have hok : ∀ k < 5, verdictAt Sample.wandering Sample.single k = .ok () := by
    intro k hk
    interval_cases k <;> rfl
  have hall := counter_telescopes Sample.wandering Sample.single 5 (by decide) (by decide)
  have hfour := counter_telescopes Sample.wandering Sample.single 4 (by decide) (by decide)
  exact ⟨by decide, hok, by decide, hall.1,
    hfour.2.2.2 (fun k hk => hok k (Nat.lt_succ_of_lt hk)) (fun _ => by decide),
    hall.2.2.2 hok (fun _ => by decide)⟩

end SeatMove

end Enrollment
