import Enrollment.Decimal.Rounding

/-! # Shortest decimal text of a binary number

The numbers that round to `k * 2 ^ q` form an interval around it, ends included if `k` is even. The
shortest text is the decimal number in the interval with the fewest digits; of two with as many, the
one nearer to the value, and of two as near, the greater. On each decimal grid only the two
neighbours of the value have to be looked at: if any point of the grid lies in the interval, so does
one of them. -/

namespace Enrollment.Decimal

/-- The numbers that round to one binary number, over a common denominator. -/
structure Interval where
  low : Nat
  value : Nat
  high : Nat
  den : Nat
  closed : Bool

/-- The interval around `k * 2 ^ q`. The gap below a power of two is half the gap above it, unless
that power is the least number with a full count of digits. -/
def Format.interval (f : Format) (k : Nat) (q : Int) : Interval :=
  let narrow := k == Nat.pow 2 (f.precision - 1) && f.least < q
  let (n, d) := dyadic 1 (q - 2)
  ⟨(4 * k - if narrow then 1 else 2) * n, 4 * k * n, (4 * k + 2) * n, d, k % 2 == 0⟩

/-- `n / d` lies in the interval. -/
def Interval.holds (i : Interval) (n d : Nat) : Bool :=
  if i.closed then i.low * d ≤ n * i.den && n * i.den ≤ i.high * d
  else i.low * d < n * i.den && n * i.den < i.high * d

/-- Digits and exponent of the point of the grid `10 ^ e` that stands for the interval, if one lies
in it. -/
def Interval.onGrid (i : Interval) (e : Int) : Option (Nat × Int) :=
  let (up, down) := power 10 e
  let below := i.value * down / (i.den * up)
  let above := below + 1
  match i.holds (below * up) down, i.holds (above * up) down with
  | true, true =>
    if 2 * (i.value * down) < (below + above) * (i.den * up) then some (below, e)
    else some (above, e)
  | true, false => some (below, e)
  | false, true => some (above, e)
  | false, false => none

/-- The count of digits before the decimal point of a fraction that is at least one, or minus the
count of zeros after the point of a smaller one. -/
def magnitude (num den : Nat) : Int :=
  if den ≤ num then (Nat.toDigits 10 (num / den)).length
  else 1 - (Nat.toDigits 10 ((den - 1) / num)).length

/-- The shortest digits that read back as `k * 2 ^ q`, with the power of ten they count; nine digits
are enough for 32-bit numbers and seventeen for 64-bit ones. -/
def Format.shortest (f : Format) (k : Nat) (q : Int) : Nat × Int :=
  let i := f.interval k q
  let top := magnitude i.value i.den
  ((List.range 17).findSome? fun n : Nat => i.onGrid (top - (n + 1))).getD (0, 0)

/-- Digits times a power of ten in positional notation, without a point if nothing follows it. -/
def positional (digits : Nat) (exponent : Int) : String :=
  let ds := Nat.toDigits 10 digits
  if 0 ≤ exponent then String.ofList (ds ++ List.replicate exponent.toNat '0')
  else
    let places := (-exponent).toNat
    let padded := List.replicate (places + 1 - ds.length) '0' ++ ds
    let whole := padded.take (padded.length - places)
    let part := (padded.drop (padded.length - places)).reverse.dropWhile (· == '0')
    if part.isEmpty then String.ofList whole
    else String.ofList (whole ++ '.' :: part.reverse)

end Enrollment.Decimal
