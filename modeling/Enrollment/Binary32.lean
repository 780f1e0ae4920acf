import Enrollment.Decimal.Shortest

/-! # 32-bit floating-point numbers

A number is its 32 bits: a sign, then a magnitude that grows with the value, then, above the
infinite magnitude, the marks that are not numbers. `key` puts the numbers in order as whole
numbers, both zeros at `0`; a mark that is not a number stands in no order.

* `le_iff`: the order of the numbers is the order of their keys.
* `ofDecimal?`: a decimal number is read as a 64-bit number first and then rounded to 32 bits.
* `text`: the fewest digits that read back, in positional notation. -/

namespace Enrollment

/-- A 32-bit floating-point number, as its bits. -/
structure Binary32 where
  bits : UInt32
deriving DecidableEq, Repr

namespace Binary32

/-- The magnitude of the two infinite numbers. -/
def infiniteMagnitude : Nat := 0x7F800000

/-- The place of the sign, above all magnitudes. -/
def signPlace : Nat := 0x80000000

/-- The place of the exponent, above the fraction. -/
def exponentPlace : Nat := 0x800000

/-- The number with a sign and a magnitude. -/
def ofMagnitude (negative : Bool) (magnitude : Nat) : Binary32 :=
  ⟨UInt32.ofNat (if negative then signPlace + magnitude else magnitude)⟩

def infinity : Binary32 := ofMagnitude false infiniteMagnitude
def negativeInfinity : Binary32 := ofMagnitude true infiniteMagnitude
def notANumber : Binary32 := ofMagnitude false (infiniteMagnitude + exponentPlace / 2)
def negativeZero : Binary32 := ofMagnitude true 0

def isNegative (x : Binary32) : Bool := signPlace ≤ x.bits.toNat

def magnitude (x : Binary32) : Nat := x.bits.toNat % signPlace

def isNumber (x : Binary32) : Bool := x.magnitude ≤ infiniteMagnitude

/-- The place of a number among the numbers. -/
def key (x : Binary32) : Int := if x.isNegative then -(x.magnitude : Int) else x.magnitude

/-- The number without the sign of a zero. -/
def unsignedZero (x : Binary32) : Binary32 := if x.magnitude = 0 then ofMagnitude false 0 else x

theorem key_unsignedZero (x : Binary32) : x.unsignedZero.key = x.key := by
  unfold unsignedZero
  split <;> rename_i h
  · simp only [key, h]
    split <;> simp [ofMagnitude, magnitude]
  · rfl

/-- `x ≤ y`, of numbers only. -/
def le (x y : Binary32) : Bool := x.isNumber && y.isNumber && x.key ≤ y.key

theorem le_iff {x y : Binary32} :
    le x y = true ↔ x.isNumber = true ∧ y.isNumber = true ∧ x.key ≤ y.key := by
  simp [le, and_assoc]

/-- The nearest 32-bit number to a fraction, infinite if the fraction is beyond the range. -/
def ofFraction (negative : Bool) (num den : Nat) : Binary32 :=
  let (k, q) := Decimal.single.nearest num den
  ofMagnitude negative (min ((q + 149).toNat * exponentPlace + k) infiniteMagnitude)

/-- The nearest 32-bit number to a natural number. -/
def ofNat (n : Nat) : Binary32 := ofFraction false n 1

/-- The nearest 32-bit number to the 64-bit number `k * 2 ^ q`. -/
def ofDouble (negative : Bool) (k : Nat) (q : Int) : Binary32 :=
  let (num, den) := Decimal.dyadic k q
  ofFraction negative num den

/-- A decimal number, read as a 64-bit number and then rounded to 32 bits; nothing if it is beyond
the 64-bit numbers. -/
def ofDecimal? (d : Decimal) : Option Binary32 :=
  d.toDouble?.map fun (k, q) => ofDouble d.negative k q

/-- The nearest 32-bit number to a whole number. -/
def ofInt (n : Int) : Binary32 := ofFraction (n < 0) n.natAbs 1

/-- A whole number, rounded to 64 bits and then to 32 bits. -/
def ofIntByDouble (n : Int) : Binary32 :=
  let (k, q) := Decimal.double.nearest n.natAbs 1
  ofDouble (n < 0) k q

/-- The integer part `k` and the exponent `q` of the value `k * 2 ^ q` of a finite magnitude. -/
def parts (magnitude : Nat) : Nat × Int :=
  let field : Nat := magnitude / exponentPlace
  let rest := magnitude % exponentPlace
  if field = 0 then (rest, -149) else (exponentPlace + rest, (field : Int) - 150)

/-- The text of a number: the fewest digits that read back, no exponent and no empty fraction. -/
def text (x : Binary32) : String :=
  if x.isNumber then
    let body :=
      if x.magnitude = infiniteMagnitude then "inf"
      else if x.magnitude = 0 then "0"
      else
        let (k, q) := parts x.magnitude
        let (digits, exponent) := Decimal.single.shortest k q
        Decimal.positional digits exponent
    (if x.isNegative then "-" else "") ++ body
  else "NaN"

/-- The words for the numbers that have no decimal notation, and for the negative zero. -/
def ofWord? : String → Option Binary32
  | "NaN" => some notANumber
  | "inf" => some infinity
  | "-inf" => some negativeInfinity
  | "-0" => some negativeZero
  | _ => none

end Binary32

end Enrollment
