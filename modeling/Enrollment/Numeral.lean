import Enrollment.Binary32
import Enrollment.Text.Digits

/-! # Numerals

A numeral is a number in decimal notation: a minus sign or none, the digits before the point, those
after it, and a power of ten. One without point and power denotes a whole number, if 64 bits can
hold it. Any other denotes a floating-point number: as many of its digits as 64 bits can hold, times
a power of ten, read as a 64-bit number and then rounded to 32 bits.

* `takeDigits_append`, `takeDigits_lt`: taking digits loses none and stays within 64 bits.
* `number?_eq_none_iff`: a numeral denotes nothing iff its value is beyond all 64-bit numbers. -/

namespace Enrollment

/-- A number in decimal notation. -/
structure Numeral where
  negative : Bool
  whole : List Char
  part : List Char
  power : Int
  /-- There is neither a point nor a power. -/
  plain : Bool
deriving DecidableEq, Repr

/-- What a numeral denotes. -/
inductive Number where
  | whole (n : Int)
  | real (x : Binary32)
deriving DecidableEq, Repr

namespace Number

/-- The number as a floating-point number, a whole number rounded once. -/
def toReal : Number → Binary32
  | whole n => .ofInt n
  | real x => x

/-- The number as a floating-point number, a whole number rounded to 64 bits and then to 32 bits. -/
def toRealByDouble : Number → Binary32
  | whole n => .ofIntByDouble n
  | real x => x

/-- The number as a whole number, if it is one between two bounds. -/
def between? (low high : Int) : Number → Option Int
  | whole n => if low ≤ n ∧ n ≤ high then some n else none
  | real _ => none

end Number

namespace Numeral

/-! ### Notation -/

/-- An optional minus sign at the start of a text. -/
def sign (cs : List Char) : Bool × List Char :=
  match cs with
  | '-' :: rest => (true, rest)
  | cs => (false, cs)

/-- The digits before the point: one zero, or digits that do not start with a zero. -/
def whole? (cs : List Char) : Option (List Char × List Char) :=
  let (ds, rest) := Text.splitDigits cs
  if ds.isEmpty || (1 < ds.length && ds.head? == some '0') then none else some (ds, rest)

/-- An optional point with digits after it. -/
def part? (cs : List Char) : Option (Option (List Char) × List Char) :=
  match cs with
  | '.' :: rest =>
    let (ds, rest) := Text.splitDigits rest
    if ds.isEmpty then none else some (some ds, rest)
  | cs => some (none, cs)

/-- An optional power of ten: the letter, a sign or none, and digits. -/
def power? (cs : List Char) : Option (Option Int × List Char) :=
  match cs with
  | 'e' :: rest | 'E' :: rest =>
    let (negative, rest) := match rest with
      | '-' :: rest => (true, rest)
      | '+' :: rest => (false, rest)
      | rest => (false, rest)
    let (ds, rest) := Text.splitDigits rest
    let n : Int := Text.digitsNumber ds
    if ds.isEmpty then none else some (some (if negative then -n else n), rest)
  | cs => some (none, cs)

/-- The numeral at the start of a text, and what follows it. -/
def scan? (cs : List Char) : Option (Numeral × List Char) := do
  let (negative, cs) := sign cs
  let (whole, cs) ← whole? cs
  let (part, cs) ← part? cs
  let (power, cs) ← power? cs
  some (⟨negative, whole, part.getD [], power.getD 0, part.isNone && power.isNone⟩, cs)

/-! ### Value -/

/-- The first number that 64 bits cannot hold. -/
def limit : Nat := 0x10000000000000000

/-- A number continued by the digits of a text as long as 64 bits can hold it: that number, the
digits taken and those left. -/
def takeDigits (n : Nat) : List Char → Nat × List Char × List Char
  | [] => (n, [], [])
  | c :: cs =>
    if 10 * n + Text.digitValue c < limit then
      let (m, taken, left) := takeDigits (10 * n + Text.digitValue c) cs
      (m, c :: taken, left)
    else (n, [], c :: cs)

/-- The digits that count, with the power of ten they count. A digit left over before the point is
one more place; one left over after the point is nothing. -/
def decimal (x : Numeral) : Decimal :=
  let (n, _, left) := takeDigits 0 x.whole
  let (m, taken, _) := takeDigits n x.part
  ⟨x.negative, m, x.power + left.length - taken.length⟩

/-- The whole number that a plain numeral denotes, if 64 bits can hold it. Below zero they reach
down to `-2 ^ 63`, and the negative zero is no whole number. -/
def integer? (x : Numeral) : Option Int :=
  let n := Text.digitsNumber x.whole
  if x.plain then
    if x.negative then if 0 < n ∧ n ≤ limit / 2 then some (-n) else none
    else if n < limit then some n else none
  else none

/-- What a numeral denotes; nothing if its value is beyond all 64-bit floating-point numbers. -/
def number? (x : Numeral) : Option Number :=
  match x.integer? with
  | some n => some (.whole n)
  | none => (Binary32.ofDecimal? x.decimal).map .real

theorem takeDigits_append (n : Nat) (cs : List Char) :
    (takeDigits n cs).2.1 ++ (takeDigits n cs).2.2 = cs := by
  induction cs generalizing n with
  | nil => rfl
  | cons c cs ih =>
    unfold takeDigits
    split
    · simp [ih]
    · rfl

theorem takeDigits_lt {n : Nat} (h : n < limit) (cs : List Char) :
    (takeDigits n cs).1 < limit := by
  induction cs generalizing n with
  | nil => exact h
  | cons c cs ih =>
    unfold takeDigits
    split
    · rename_i hc; exact ih hc
    · exact h

theorem number?_eq_none_iff {x : Numeral} :
    x.number? = none ↔ x.integer? = none ∧ x.decimal.toDouble? = none := by
  unfold number? Binary32.ofDecimal?
  cases x.integer? <;> simp

end Numeral

end Enrollment
