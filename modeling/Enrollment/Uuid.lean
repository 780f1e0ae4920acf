/-! # Universally unique identifiers

An identifier is 128 bits. It is written as 32 lower-case hexadecimal digits in groups of 8, 4, 4, 4
and 12 with hyphens between them, and read in four forms: so, without the hyphens, in braces, or
after `urn:uuid:`. The letters of a text that is read may be in either case.

* `length_characters`: the written form has 36 characters. -/

namespace Enrollment

/-- A universally unique identifier. -/
structure Uuid where
  value : BitVec 128
deriving DecidableEq, Repr

namespace Uuid

/-- The value of a hexadecimal digit. -/
def hexValue? (c : Char) : Option Nat :=
  if '0' ≤ c ∧ c ≤ '9' then some (c.toNat - '0'.toNat)
  else if 'a' ≤ c ∧ c ≤ 'f' then some (c.toNat - 'a'.toNat + 10)
  else if 'A' ≤ c ∧ c ≤ 'F' then some (c.toNat - 'A'.toNat + 10)
  else none

/-- The number that a list of hexadecimal digits stands for. -/
def hexNumber? (cs : List Char) : Option Nat :=
  cs.foldlM (fun n c => (hexValue? c).map (16 * n + ·)) 0

/-- The identifier of 32 hexadecimal digits. -/
def ofDigits? (cs : List Char) : Option Uuid :=
  if cs.length = 32 then (hexNumber? cs).map fun n => ⟨BitVec.ofNat 128 n⟩ else none

/-- The identifier of the hyphenated form. -/
def ofHyphenated? (cs : List Char) : Option Uuid :=
  if cs.length = 36 ∧ [8, 13, 18, 23].all (fun i => cs[i]? == some '-') then
    ofDigits? (cs.take 8 ++ (cs.drop 9).take 4 ++ (cs.drop 14).take 4 ++ (cs.drop 19).take 4 ++
      cs.drop 24)
  else none

/-- The name of the identifiers among uniform resource names. -/
def resourceName : List Char := "urn:uuid:".toList

/-- The identifier that a text denotes in one of the four forms. -/
def ofText? (s : String) : Option Uuid :=
  match s.toList with
  | '\x7b' :: cs => if cs.getLast? = some '\x7d' then ofHyphenated? cs.dropLast else none
  | cs =>
    if cs.length = 32 then ofDigits? cs
    else if (cs.take resourceName.length).map Char.toLower = resourceName then
      ofHyphenated? (cs.drop resourceName.length)
    else ofHyphenated? cs

/-- A hexadecimal digit. -/
def hexDigit (n : Nat) : Char := (Nat.digitChar (n % 16))

/-- The hexadecimal digits of the bits from place `16 ^ low` on. -/
def group (u : Uuid) (low count : Nat) : List Char :=
  ((List.range count).map fun i => hexDigit (u.value.toNat / Nat.pow 16 (low + i))).reverse

/-- The characters of the written form. -/
def characters (u : Uuid) : List Char :=
  u.group 24 8 ++ '-' :: u.group 20 4 ++ '-' :: u.group 16 4 ++ '-' :: u.group 12 4 ++
    '-' :: u.group 0 12

/-- The written form of an identifier. -/
def text (u : Uuid) : String := String.ofList u.characters

/-- Identifiers in the order of their written forms. -/
def before (u v : Uuid) : Bool := u.value.toNat ≤ v.value.toNat

/-- The kind of an identifier: the four bits from place `16 ^ 19` on. -/
def version (u : Uuid) : Nat := u.value.toNat / Nat.pow 16 19 % 16

/-- The random identifier of 128 random bits, six of which give way to the marks of its kind. -/
def random (bits : BitVec 128) : Uuid :=
  ⟨bits &&& ~~~(0xF000C000000000000000#128) ||| 0x40008000000000000000#128⟩

theorem length_group (u : Uuid) (low count : Nat) : (u.group low count).length = count := by
  simp [group]

theorem length_characters (u : Uuid) : u.characters.length = 36 := by
  simp [characters, length_group]

theorem version_random_zero : (random 0#128).version = 4 := by decide

end Uuid

end Enrollment
