/-! # Decimal digits

The digits are the ten ASCII ones. A number is read from the digits that a text starts with.

* `splitDigits_append`, `isDigit_of_mem_splitDigits`: splitting them off loses nothing and takes
  digits only. -/

namespace Enrollment.Text

/-- The value of a digit. -/
def digitValue (c : Char) : Nat := c.toNat - '0'.toNat

/-- The number that digits stand for. -/
def digitsNumber (ds : List Char) : Nat := ds.foldl (fun n c => 10 * n + digitValue c) 0

/-- The digits that a text starts with, and what follows them. -/
def splitDigits (cs : List Char) : List Char × List Char :=
  (cs.takeWhile Char.isDigit, cs.dropWhile Char.isDigit)

theorem splitDigits_append (cs : List Char) : (splitDigits cs).1 ++ (splitDigits cs).2 = cs := by
  simp [splitDigits]

theorem isDigit_of_mem_splitDigits {cs : List Char} {c : Char} (h : c ∈ (splitDigits cs).1) :
    c.isDigit = true :=
  List.all_eq_true.1 List.all_takeWhile c h

theorem digitsNumber_concat (ds : List Char) (c : Char) :
    digitsNumber (ds ++ [c]) = 10 * digitsNumber ds + digitValue c := by
  simp [digitsNumber]

end Enrollment.Text
