import Enrollment.Text.Blank
import Enrollment.Text.Digits
import Enrollment.Time.Date

/-! # Instants

An instant is a second of universal time, counted from the start of 1970, and a count of nanoseconds
in it. A leap second is counted as the second thousand million nanoseconds of the second before it,
so it comes after that second and before the next, and is written as the second `60`.

Answers write an instant as in RFC 3339, `2024-03-01T12:00:00Z`, and messages write it as
`2024-03-01 12:00:00 UTC`; both with the least of 0, 3, 6 or 9 fraction digits that lose nothing,
and with a sign before years outside `0000` to `9999`.

Reading is more lenient than writing: an offset in place of `Z`, either case of the letters, a space
for the `T`, numbers without leading zeros, white space before a number or a mark between numbers, a
signed year of any length, an offset without its colon, and any count of fraction digits, of which
nine count.

* `le_iff`, `lt_iff`: the order of instants is that of their places, and `eq_of_place_eq` says that
  each has a place of its own. -/

namespace Enrollment

/-- The count of nanoseconds in a second and a leap second after it. -/
def nanosPerPlace : Nat := 2000000000

/-- A point in time: a second from the start of 1970, and nanoseconds in it. -/
structure Instant where
  second : Int
  nanos : Nat
  nanos_lt : nanos < nanosPerPlace
deriving DecidableEq, Repr

namespace Instant

/-- The start of 1970. -/
def epoch : Instant := ⟨0, 0, by decide⟩

/-- The place of an instant among the instants. -/
def place (t : Instant) : Int := t.second * nanosPerPlace + t.nanos

instance : LE Instant := ⟨fun a b => a.place ≤ b.place⟩
instance : LT Instant := ⟨fun a b => a.place < b.place⟩
instance (a b : Instant) : Decidable (a ≤ b) := inferInstanceAs (Decidable (a.place ≤ b.place))
instance (a b : Instant) : Decidable (a < b) := inferInstanceAs (Decidable (a.place < b.place))

theorem le_iff {a b : Instant} : a ≤ b ↔ a.place ≤ b.place := Iff.rfl

theorem lt_iff {a b : Instant} : a < b ↔ a.place < b.place := Iff.rfl

theorem eq_of_place_eq {a b : Instant} (h : a.place = b.place) : a = b := by
  obtain ⟨s, n, hn⟩ := a
  obtain ⟨s', n', hn'⟩ := b
  simp only [place, nanosPerPlace] at h hn hn'
  obtain ⟨rfl, rfl⟩ : s = s' ∧ n = n' := by omega
  rfl

def nanosPerSecond : Nat := 1000000000
def secondsPerDay : Int := 86400

/-! ### Writing -/

/-- A number with at least so many digits. -/
def padded (width n : Nat) : String :=
  let ds := Nat.toDigits 10 n
  String.ofList (List.replicate (width - ds.length) '0' ++ ds)

/-- A year in four digits, with a sign if it needs more or is negative. -/
def yearText (year : Int) : String :=
  if year < 0 then "-" ++ padded 4 year.natAbs
  else if year ≤ 9999 then padded 4 year.natAbs
  else "+" ++ padded 4 year.natAbs

/-- A fraction of a second after its point, in thousandths, millionths or billionths. -/
def fractionText (nanos : Nat) : String :=
  if nanos = 0 then ""
  else if nanos % 1000000 = 0 then "." ++ padded 3 (nanos / 1000000)
  else if nanos % 1000 = 0 then "." ++ padded 6 (nanos / 1000)
  else "." ++ padded 9 nanos

/-- The date in universal time. -/
def date (t : Instant) : Date := Date.ofDays (t.second / secondsPerDay)

def dateText (t : Instant) : String :=
  yearText t.date.year ++ "-" ++ padded 2 t.date.month ++ "-" ++ padded 2 t.date.day

/-- Hours, minutes, seconds and their fraction in universal time. -/
def clockText (t : Instant) : String :=
  let second := (t.second % secondsPerDay).toNat
  let leap := t.nanos / nanosPerSecond
  padded 2 (second / 3600) ++ ":" ++ padded 2 (second / 60 % 60) ++ ":" ++
    padded 2 (second % 60 + leap) ++ fractionText (t.nanos % nanosPerSecond)

/-- An instant as it stands in an answer. -/
def text (t : Instant) : String := t.dateText ++ "T" ++ t.clockText ++ "Z"

/-- An instant as it stands in a message. -/
def spoken (t : Instant) : String := t.dateText ++ " " ++ t.clockText ++ " UTC"

/-! ### Reading -/

/-- A text without the white space that it starts with. -/
def skip (cs : List Char) : List Char := cs.dropWhile Text.isWhite

/-- The number of the leading digits, at most so many of them and at least one, and the rest. -/
def number? (most : Nat) (cs : List Char) : Option (Nat × List Char) :=
  let ds := (Text.splitDigits (cs.take most)).1
  if ds.isEmpty then none else some (Text.digitsNumber ds, cs.drop ds.length)

/-- A number of one or two digits after white space. -/
def field? (cs : List Char) : Option (Nat × List Char) := number? 2 (skip cs)

/-- The text after one given character. -/
def after? (c : Char) : List Char → Option (List Char)
  | d :: cs => if d = c then some cs else none
  | [] => none

/-- The text after one of several characters. -/
def afterAny? (choices : List Char) : List Char → Option (List Char)
  | d :: cs => if choices.contains d then some cs else none
  | [] => none

/-- A field after a mark, before which there may be white space. -/
def fieldAfter? (mark : Char) (cs : List Char) : Option (Nat × List Char) :=
  after? mark (skip cs) >>= field?

/-- A year after white space: up to four digits, or a sign and any count of digits. -/
def year? (cs : List Char) : Option (Int × List Char) :=
  match skip cs with
  | '-' :: cs => (number? cs.length cs).map fun (n, rest) => (-(n : Int), rest)
  | '+' :: cs => (number? cs.length cs).map fun (n, rest) => ((n : Int), rest)
  | cs => (number? 4 cs).map fun (n, rest) => ((n : Int), rest)

/-- A date at the start of a text. -/
def date? (cs : List Char) : Option (Date × List Char) := do
  let (year, cs) ← year? cs
  let (month, cs) ← fieldAfter? '-' cs
  let (day, cs) ← fieldAfter? '-' cs
  let d : Date := ⟨year, month, day⟩
  if d.isValid && d.isInRange then some (d, cs) else none

/-- Nanoseconds of an optional fraction at the start of a text. -/
def fraction? : List Char → Option (Nat × List Char)
  | '.' :: cs => do
    let (n, rest) ← number? 9 cs
    let digits := cs.length - rest.length
    some (n * Nat.pow 10 (9 - digits), rest.dropWhile Char.isDigit)
  | cs => some (0, cs)

/-- Seconds from midnight and nanoseconds at the start of a text. The second `60` is the leap second
after the second `59`. -/
def clock? (cs : List Char) : Option ((Nat × Nat) × List Char) := do
  let (hour, cs) ← field? cs
  let (minute, cs) ← fieldAfter? ':' cs
  let (second, cs) ← fieldAfter? ':' cs
  let (nanos, cs) ← fraction? cs
  let leap := second / 60
  if hour < 24 ∧ minute < 60 ∧ second ≤ 60 then
    some ((hour * 3600 + minute * 60 + second - leap, leap * nanosPerSecond + nanos), cs)
  else none

/-- A number of exactly two digits at the start of a text. -/
def pair? (cs : List Char) : Option (Nat × List Char) :=
  let ds := (Text.splitDigits (cs.take 2)).1
  if ds.length = 2 then some (Text.digitsNumber ds, cs.drop 2) else none

/-- Seconds from the hours and minutes of an offset; colons and white space may stand between. -/
def span? (cs : List Char) : Option (Int × List Char) := do
  let (hour, cs) ← pair? cs
  let (minute, cs) ← pair? (cs.dropWhile fun c => c == ':' || Text.isWhite c)
  if hour < 24 ∧ minute < 60 then some (hour * 3600 + minute * 60, cs) else none

/-- Seconds that local time is ahead of universal time, at the start of a text. The minus sign is
the hyphen or the mathematical one. -/
def offset? (cs : List Char) : Option (Int × List Char) :=
  if (cs.take 3).map Char.toLower = ['u', 't', 'c'] then some (0, cs.drop 3)
  else
    match cs with
    | 'Z' :: cs | 'z' :: cs => some (0, cs)
    | '+' :: cs => span? cs
    | '-' :: cs | '\u2212' :: cs => (span? cs).map fun (n, rest) => (-n, rest)
    | _ => none

/-- The instant that a text denotes. -/
def ofText? (s : String) : Option Instant := do
  let (d, cs) ← date? s.toList
  let ((second, nanos), cs) ← clock? (← afterAny? ['T', 't', ' '] cs)
  let (offset, cs) ← offset? (skip cs)
  if h : nanos < nanosPerPlace ∧ (skip cs).isEmpty then
    let t : Instant := ⟨d.toDays * secondsPerDay + second - offset, nanos, h.1⟩
    if t.date.isInRange then some t else none
  else none

end Instant

end Enrollment
