/-! # Blank text

White space is the Unicode property White_Space: 25 code points, among them the no-break space
`U+00A0` and the ideographic space `U+3000`, but no zero-width character. A text is blank if it
holds nothing else.

* `isWhite_of_isWhitespace`: what core calls white space is white here too.
* `isBlank_iff_trim_eq_empty`: a text is blank iff nothing is left of it between its white ends. -/

namespace Enrollment.Text

/-- The characters with the property White_Space. -/
def isWhite (c : Char) : Bool :=
  let n := c.toNat
  (9 ≤ n && n ≤ 13) || n == 0x20 || n == 0x85 || n == 0xA0 || n == 0x1680 ||
    (0x2000 ≤ n && n ≤ 0x200A) || n == 0x2028 || n == 0x2029 || n == 0x202F || n == 0x205F ||
    n == 0x3000

/-- A text without any character that is not white. -/
def isBlank (s : String) : Bool := s.toList.all isWhite

/-- The text between the white space at its two ends. -/
def trim (s : String) : String :=
  String.ofList ((s.toList.dropWhile isWhite).reverse.dropWhile isWhite).reverse

theorem isWhite_of_isWhitespace {c : Char} (h : c.isWhitespace = true) : isWhite c = true := by
  simp only [Char.isWhitespace, Bool.or_eq_true, decide_eq_true_eq] at h
  rcases h with ((h | h) | h) | h <;> subst h <;> decide

theorem dropWhile_eq_nil_iff_all {α : Type} {p : α → Bool} {l : List α} :
    l.dropWhile p = [] ↔ l.all p = true := by
  induction l with
  | nil => simp
  | cons a l ih => by_cases h : p a <;> simp [h, ih]

theorem isBlank_iff_trim_eq_empty {s : String} : isBlank s = true ↔ trim s = "" := by
  unfold isBlank trim
  rw [show ("" : String) = String.ofList [] from rfl, String.ofList_inj,
    List.reverse_eq_nil_iff, dropWhile_eq_nil_iff_all, List.all_reverse,
    ← dropWhile_eq_nil_iff_all (l := s.toList)]
  constructor
  · intro h; rw [h]; rfl
  · intro h
    cases hd : s.toList.dropWhile isWhite with
    | nil => rfl
    | cons a l =>
      have hn := List.head_dropWhile_not isWhite (l := s.toList) (by rw [hd]; simp)
      simp only [hd, List.head_cons] at hn
      rw [hd] at h
      simp [hn] at h

end Enrollment.Text
