/-! # Decimal numbers and their nearest binary neighbours

A decimal number is a whole number of digits times a power of ten, with a sign of its own, so that
zero has one too. A binary format has numbers `k * 2 ^ q` with at most `precision` binary digits in
`k` and `q` not below `least`. `Format.nearest` rounds a fraction to the nearest of them, a tie to
the even `k`. `toDouble?` takes a decimal number to a 64-bit one in steps that each round: the
digits, the power of ten, and their product or quotient.

* `roundEven_mul_le`, `lt_roundEven_mul`: rounding a quotient errs by half a unit at most. -/

namespace Enrollment

/-- A number in decimal notation: `digits * 10 ^ exponent`, negative or not. -/
structure Decimal where
  negative : Bool
  digits : Nat
  exponent : Int
deriving DecidableEq, Repr

namespace Decimal

/-- A power of a number, as numerator and denominator. -/
def power (base : Nat) (e : Int) : Nat × Nat :=
  if 0 ≤ e then (Nat.pow base e.toNat, 1) else (1, Nat.pow base (-e).toNat)

/-- A quotient rounded to the nearest whole number, a half to the even one. -/
def roundEven (n d : Nat) : Nat :=
  if 2 * (n % d) < d ∨ 2 * (n % d) = d ∧ n / d % 2 = 0 then n / d else n / d + 1

theorem roundEven_mul_le {n d : Nat} : 2 * (roundEven n d * d) ≤ 2 * n + d := by
  unfold roundEven
  have h := Nat.div_add_mod n d
  have hc : d * (n / d) = n / d * d := Nat.mul_comm _ _
  split
  · omega
  · rw [Nat.add_mul]; omega

theorem lt_roundEven_mul {n d : Nat} (hd : 0 < d) : 2 * n ≤ 2 * (roundEven n d * d) + d := by
  unfold roundEven
  have h := Nat.div_add_mod n d
  have hm := Nat.mod_lt n hd
  have hc : d * (n / d) = n / d * d := Nat.mul_comm _ _
  split
  · omega
  · rw [Nat.add_mul]; omega

/-- A binary floating-point format: the count of binary digits, the exponent of the least positive
number, and the exponent of the first power of two that is too large. -/
structure Format where
  precision : Nat
  least : Int
  beyond : Int

/-- 32-bit numbers. -/
def single : Format := ⟨24, -149, 128⟩

/-- 64-bit numbers. -/
def double : Format := ⟨53, -1074, 1024⟩

/-- A fraction divided by a power of two. -/
def scaleDown (num den : Nat) (e : Int) : Nat × Nat :=
  let (up, down) := power 2 e
  (num * down, den * up)

/-- The exponent of the greatest power of two that is not above a positive fraction. -/
def log2 (num den : Nat) : Int :=
  let e : Int := (Nat.log2 num : Int) - (Nat.log2 den : Int)
  let (n, d) := scaleDown num den e
  if d ≤ n then e else e - 1

/-- The number `k * 2 ^ q` of the format, its range apart, that is nearest to a fraction. -/
def Format.nearest (f : Format) (num den : Nat) : Nat × Int :=
  if num = 0 then (0, f.least)
  else
    let q := max (log2 num den - (f.precision - 1)) f.least
    let (n, d) := scaleDown num den q
    (roundEven n d, q)

/-- `k * 2 ^ q` as a fraction. -/
def dyadic (k : Nat) (q : Int) : Nat × Nat :=
  let (up, down) := power 2 q
  (k * up, down)

/-! ### 64-bit numbers -/

/-- The exponent of the greatest power of ten that is a 64-bit number. -/
def greatestPower : Int := 308

/-- A 64-bit number `k * 2 ^ q` times `10 ^ e`, or divided by `10 ^ -e` if `e` is negative; the
positive power of ten is a 64-bit number too, and the result is rounded to one. -/
def scaleByTen (k : Nat) (q e : Int) : Nat × Int :=
  let (num, den) := dyadic k q
  let (p, r) := double.nearest (Nat.pow 10 e.natAbs) 1
  let (up, down) := dyadic p r
  if 0 ≤ e then double.nearest (num * up) (den * down)
  else double.nearest (num * down) (den * up)

/-- `k * 2 ^ q` is below the first power of two that is too large. -/
def Format.isInRange (f : Format) (k : Nat) (q : Int) : Bool :=
  let (num, den) := dyadic k q
  num < Nat.pow 2 f.beyond.toNat * den

/-- The 64-bit number `k * 2 ^ q` that a decimal number without its sign is read as; nothing if that
is too large. A negative power of ten beyond the greatest is divided by in two steps, and two of the
greatest leave nothing of digits below `2 ^ 64`. -/
def toDouble? (d : Decimal) : Option (Nat × Int) :=
  let (k, q) := double.nearest d.digits 1
  if k = 0 ∨ d.exponent < -(2 * greatestPower) then some (0, double.least)
  else if greatestPower < d.exponent then none
  else
    let (k, q) :=
      if d.exponent < -greatestPower then
        let (k, q) := scaleByTen k q (-greatestPower)
        scaleByTen k q (d.exponent + greatestPower)
      else scaleByTen k q d.exponent
    if double.isInRange k q then some (k, q) else none

end Decimal

end Enrollment
