import Enrollment.Course
import Enrollment.Refusal

/-! # Seats

A course in some states holds a seat in its section. Writing a course moves seats: it gives back the
one held before and takes the one held after, and if they are the same it moves none. Taking a seat
in a full section is refused; giving one back never brings a counter below zero.

* `overflows_eq_false`: a counter that is not negative can be counted down.
* `toInt_given`, `given_lt`: a counter above zero falls by one, and leaves room. -/

namespace Enrollment

/-- The seat given back and the seat taken by a write, by their sections. -/
structure SeatMove where
  release : Option Uuid
  take : Option Uuid
deriving DecidableEq, Repr

namespace SeatMove

/-- No seat moves. -/
def none : SeatMove := ⟨.none, .none⟩

/-- The move from the seat held before, by no state on insert, to the one held after. -/
def between (old : Option CourseState) (new : CourseState) : SeatMove :=
  let before := old.bind CourseState.seat
  if before = new.seat then none else ⟨before, new.seat⟩

def isEmpty (m : SeatMove) : Bool := m.release.isNone && m.take.isNone

/-- The sections whose counters move, the one that gets a seat back first. -/
def sections (m : SeatMove) : List Uuid := m.release.toList ++ m.take.toList

/-- A counter with one seat given back. -/
def given (count : Int32) : Int32 := if count - 1 < 0 then 0 else count - 1

theorem toInt_sub_one {count : Int32} (h : 0 ≤ count.toInt) :
    (count - 1).toInt = count.toInt - 1 := by
  have hlt := count.toInt_lt
  rw [Int32.toInt_sub, Int32.toInt_one]
  exact Int.bmod_eq_of_le (by omega) (by omega)

theorem given_eq_sub_one {count : Int32} (h : 0 < count.toInt) : given count = count - 1 := by
  unfold given
  rw [if_neg]
  rw [Int32.lt_iff_toInt_lt, toInt_sub_one (Int.le_of_lt h), Int32.toInt_zero]
  omega

theorem toInt_given {count : Int32} (h : 0 < count.toInt) :
    (given count).toInt = count.toInt - 1 := by
  rw [given_eq_sub_one h, toInt_sub_one (Int.le_of_lt h)]

/-- A seat that is given back leaves room, if no more seats were taken than there are. -/
theorem given_lt {count most : Int32} (hcount : 0 ≤ count) (hle : count ≤ most) (hmost : 0 < most) :
    given count < most := by
  rw [Int32.le_iff_toInt_le] at hcount hle
  rw [Int32.lt_iff_toInt_lt] at hmost ⊢
  rw [Int32.toInt_zero] at hcount hmost
  by_cases hpos : 0 < count.toInt
  · rw [toInt_given hpos]
    omega
  · obtain rfl : count = 0 := Int32.toInt.inj (by rw [Int32.toInt_zero]; omega)
    exact hmost

/-- The move gives a seat back in a section whose counter has no number below it. -/
def overflows (m : SeatMove) (s : Section) : Bool :=
  m.release = some s.audit.id && s.currentCapacity = Int32.minValue

theorem overflows_eq_false {m : SeatMove} {s : Section} (h : 0 ≤ s.currentCapacity) :
    m.overflows s = false := by
  have hne : s.currentCapacity ≠ Int32.minValue := fun hmin => by
    rw [hmin] at h
    exact absurd h (by decide)
  rw [overflows, decide_eq_false hne, Bool.and_false]

/-- The section after its seat, if the move gives one back there. -/
def releaseIn (m : SeatMove) (s : Section) : Section :=
  if m.release = some s.audit.id then { s with currentCapacity := given s.currentCapacity } else s

/-- What a move leaves of a section, and whether the section is too full for it. A seat that is
given back stays given back when another one is refused. -/
def attempt (m : SeatMove) (s : Section) : Section × Verdict :=
  let s := m.releaseIn s
  if m.take = some s.audit.id then
    if s.isFull then
      (s, .error (.rule (.seatLeft s.audit.id s.currentCapacity s.maxCapacity)))
    else ({ s with currentCapacity := s.currentCapacity + 1 }, .ok ())
  else (s, .ok ())

/-- The section after the whole move. -/
def apply (m : SeatMove) (s : Section) : Except Refusal Section :=
  (m.attempt s).2.map fun _ => (m.attempt s).1

end SeatMove

end Enrollment
