import Enrollment.Text.Graphic

/-! # Quoted text

A text as it stands in a message: between double quotes, on one line, every character either
itself or an escape. The double quote and the backslash take a backslash; NUL, tab, line feed and
carriage return have letters; what is not graphic, or would be drawn onto the quote or onto another
character, is written as `\u` with its code point in hexadecimal digits in braces. -/

namespace Enrollment.Text

/-- One character of a quoted text. -/
def escape (c : Char) : String :=
  if c == '"' then "\\\""
  else if c == '\\' then "\\\\"
  else if c == '\t' then "\\t"
  else if c == '\n' then "\\n"
  else if c == '\r' then "\\r"
  else if c == '\x00' then "\\0"
  else if isGraphic c && !(extendsGrapheme c) then c.toString
  else "\\u\x7b" ++ String.ofList (Nat.toDigits 16 c.toNat) ++ "\x7d"

/-- A text between double quotes. -/
def quoted (s : String) : String :=
  "\"" ++ String.join (s.toList.map escape) ++ "\""

end Enrollment.Text
