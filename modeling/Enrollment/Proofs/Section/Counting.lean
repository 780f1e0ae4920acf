import Enrollment.Section.Seats

/-! # How a counter moves

A move gives a seat back in one section and takes one in another, so in any section a counter falls
by one, rises by one or stays, and it stays within the room there is.

* `attempt_of_room`, `attempt_of_full`: what is left of a section, with a seat left for the move and
  without.
* `attempt_ofSeats_cases`: a section that is too full for a move from seat to seat stays as it is.
* `toInt_counter_ofSeats`: a counter moves with the seats.
* `counter_nonneg`, `counter_le`: it neither falls below nothing nor rises above the room. -/

namespace Enrollment

/-- One for a seat in the given section, and none for no seat there. -/
def seatIn (key : Uuid) (seat : Option Uuid) : Nat := if seat = some key then 1 else 0

namespace SeatMove

variable {m : SeatMove} {s : Section} {before after : Option Uuid} {key : Uuid}
  {count most : Int32}

/-! ### What is left of a section -/

theorem releaseIn_of_eq (h : m.release = some s.audit.id) :
    m.releaseIn s = { s with currentCapacity := given s.currentCapacity } := if_pos h

theorem releaseIn_of_ne (h : m.release ≠ some s.audit.id) :
    m.releaseIn s = s := if_neg h

theorem releaseIn_fields (m : SeatMove) (s : Section) : (m.releaseIn s).audit = s.audit ∧
    (m.releaseIn s).subjectId = s.subjectId ∧ (m.releaseIn s).trimesterId = s.trimesterId ∧
      (m.releaseIn s).spaceTimeIds = s.spaceTimeIds := by
  unfold releaseIn
  split <;> exact ⟨rfl, rfl, rfl, rfl⟩

/-- The counter of a section after a move. -/
def counter (m : SeatMove) (key : Uuid) (count : Int32) : Int32 :=
  if m.take = some key then (if m.release = some key then given count else count) + 1
  else if m.release = some key then given count else count

theorem counter_of_not_mem (h : key ∉ m.sections) (count : Int32) :
    m.counter key count = count := by
  simp only [sections, List.mem_append, Option.mem_toList, not_or] at h
  rw [counter, if_neg h.2, if_neg h.1]

theorem attempt_of_room (h : m.take = some s.audit.id → (m.releaseIn s).isFull = false) :
    m.attempt s =
      ({ s with currentCapacity := m.counter s.audit.id s.currentCapacity }, .ok ()) := by
  have hid := congrArg Audit.id (m.releaseIn_fields s).1
  unfold attempt counter
  simp only [hid]
  by_cases ht : m.take = some s.audit.id
  · simp only [if_pos ht, h ht, Bool.false_eq_true, if_false]
    unfold releaseIn
    split <;> rfl
  · simp only [if_neg ht]
    unfold releaseIn
    split <;> rfl

theorem attempt_of_full (ht : m.take = some s.audit.id) (hf : (m.releaseIn s).isFull = true) :
    m.attempt s = (m.releaseIn s, .error (.rule
      (.seatLeft s.audit.id (m.releaseIn s).currentCapacity (m.releaseIn s).maxCapacity))) := by
  have hid := congrArg Audit.id (m.releaseIn_fields s).1
  unfold attempt
  simp only [hid, if_pos ht, if_pos hf]

theorem exists_apply {e : Section}
    (h : m.take = some e.audit.id → (m.releaseIn e).isFull = false) : ∃ e', m.apply e = .ok e' :=
  ⟨_, by rw [apply, attempt_of_room h]; rfl⟩

theorem apply_eq_ok {e e' : Section} (h : m.apply e = .ok e') :
    e' = { e with currentCapacity := m.counter e.audit.id e.currentCapacity } ∧
      (m.take = some e.audit.id → (m.releaseIn e).isFull = false) := by
  have hroom : m.take = some e.audit.id → (m.releaseIn e).isFull = false := by
    intro ht
    cases hf : (m.releaseIn e).isFull with
    | false => rfl
    | true => rw [apply, attempt_of_full ht hf] at h; cases h
  rw [apply, attempt_of_room hroom] at h
  exact ⟨(Except.ok.inj h).symm, hroom⟩

/-! ### From seat to seat -/

/-- The move from a seat in one section to a seat in another, either of which may be missing. -/
def ofSeats (before after : Option Uuid) : SeatMove :=
  if before = after then none else ⟨before, after⟩

theorem between_eq_ofSeats (old : Option CourseState) (new : CourseState) :
    between old new = ofSeats (old.bind CourseState.seat) new.seat := rfl

theorem nodup_sections_ofSeats (before after : Option Uuid) :
    (ofSeats before after).sections.Nodup := by
  unfold ofSeats
  split <;> rename_i h
  · exact List.nodup_nil
  · cases before <;> cases after <;> simp_all [sections]

theorem release_ne_of_take (h : (ofSeats before after).take = some key) :
    (ofSeats before after).release ≠ some key := by
  unfold ofSeats at h ⊢
  split at h <;> rename_i hne
  · cases h
  · rw [if_neg hne]
    exact fun hrelease => hne (hrelease.trans h.symm)

/-- **A seat is taken where one is left**, and otherwise the section stays as it is: no seat has
been given back in the same section. -/
theorem attempt_ofSeats_cases (before after : Option Uuid) (s : Section) :
    ((ofSeats before after).take = some s.audit.id ∧ s.isFull = true ∧
      (ofSeats before after).attempt s =
        (s, .error (.rule (.seatLeft s.audit.id s.currentCapacity s.maxCapacity)))) ∨
    (((ofSeats before after).take = some s.audit.id → s.isFull = false) ∧
      (ofSeats before after).attempt s =
        ({ s with currentCapacity := (ofSeats before after).counter s.audit.id s.currentCapacity },
          .ok ())) := by
  have hsame (ht : (ofSeats before after).take = some s.audit.id) :
      (ofSeats before after).releaseIn s = s := releaseIn_of_ne (release_ne_of_take ht)
  by_cases h : (ofSeats before after).take = some s.audit.id ∧ s.isFull = true
  · obtain ⟨ht, hf⟩ := h
    refine .inl ⟨ht, hf, ?_⟩
    rw [attempt_of_full ht ((hsame ht).symm ▸ hf), hsame ht]
  · have hroom (ht : (ofSeats before after).take = some s.audit.id) : s.isFull = false :=
      Bool.eq_false_iff.mpr fun hf => h ⟨ht, hf⟩
    exact .inr ⟨hroom, attempt_of_room fun ht => (hsame ht).symm ▸ hroom ht⟩

/-- **A counter moves with the seats**, and stays within the room there is. -/
theorem toInt_counter_ofSeats
    (hcount : count ≤ most) (hpos : before = some key → after ≠ some key → 0 < count.toInt)
    (hroom : (ofSeats before after).take = some key →
      (ofSeats before after).release ≠ some key → count < most) :
    ((ofSeats before after).counter key count).toInt + seatIn key before =
        count.toInt + seatIn key after ∧
      (ofSeats before after).counter key count ≤ most := by
  by_cases hsame : before = after
  · rw [ofSeats, if_pos hsame, hsame]
    exact ⟨rfl, hcount⟩
  rw [ofSeats, if_neg hsame] at hroom ⊢
  unfold counter seatIn
  by_cases hb : before = some key <;> by_cases ha : after = some key
  · exact absurd (hb.trans ha.symm) hsame
  · have hgiven := toInt_given (hpos hb ha)
    have hle := Int32.le_iff_toInt_le.mp hcount
    simp only [hb, ha, if_true, if_false]
    exact ⟨by omega, Int32.le_iff_toInt_le.mpr (by omega)⟩
  · have hlt := hroom ha hb
    have hadd := toInt_add_one_of_lt hlt
    have hle := Int32.lt_iff_toInt_lt.mp hlt
    simp only [hb, ha, if_true, if_false]
    exact ⟨by omega, Int32.le_iff_toInt_le.mpr (by omega)⟩
  · rw [if_neg ha, if_neg hb, if_neg ha, if_neg hb]
    exact ⟨rfl, hcount⟩

/-! ### Bounds -/

theorem given_nonneg (count : Int32) : 0 ≤ given count := by
  unfold given
  split
  · exact Int32.le_refl 0
  · exact Int32.not_lt.mp ‹_›

theorem given_le (h : 0 ≤ count) : given count ≤ count := by
  rw [Int32.le_iff_toInt_le, Int32.toInt_zero] at h
  by_cases hpos : 0 < count.toInt
  · rw [Int32.le_iff_toInt_le, toInt_given hpos]
    omega
  · obtain rfl : count = 0 := Int32.toInt.inj (by rw [Int32.toInt_zero]; omega)
    exact Int32.le_refl 0

/-- A counter is not negative after a move that takes a seat only where one is left. -/
theorem counter_nonneg (hcount : 0 ≤ count)
    (hroom : m.take = some key → m.release ≠ some key ∧ count < most) :
    0 ≤ m.counter key count := by
  unfold counter
  split
  · rename_i ht
    obtain ⟨hrelease, hlt⟩ := hroom ht
    rw [if_neg hrelease]
    exact Int32.le_trans hcount (Int32.le_of_lt (lt_add_one_of_lt hlt))
  · split
    · exact given_nonneg count
    · exact hcount

theorem counter_le (hcount : 0 ≤ count) (hle : count ≤ most)
    (hroom : m.take = some key → m.release ≠ some key ∧ count < most) :
    m.counter key count ≤ most := by
  unfold counter
  split
  · rename_i ht
    obtain ⟨hrelease, hlt⟩ := hroom ht
    rw [if_neg hrelease, Int32.le_iff_toInt_le, toInt_add_one_of_lt hlt]
    exact Int32.lt_iff_toInt_lt.mp hlt
  · split
    · exact Int32.le_trans (given_le hcount) hle
    · exact hle

end SeatMove

end Enrollment
