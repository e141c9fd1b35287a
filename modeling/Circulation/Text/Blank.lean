/- # Circulation.Text.Blank -- white space

The characters with the property White_Space of the Unicode character database, and what is left
of a text without those at its ends. A text is blank if nothing is left.
-/

namespace Circulation.Text

/-- The property White_Space: the controls from tab to carriage return, the space, the next-line
control, and the spaces and separators of the other scripts. -/
def isBlank (c : Char) : Bool :=
  let n := c.toNat
  (0x09 ≤ n && n ≤ 0x0D) || n == 0x20 || n == 0x85 || n == 0xA0 || n == 0x1680 ||
  (0x2000 ≤ n && n ≤ 0x200A) || n == 0x2028 || n == 0x2029 || n == 0x202F || n == 0x205F ||
  n == 0x3000

/-- Without the blank characters in front. -/
def dropBlank (cs : List Char) : List Char := cs.dropWhile isBlank

/-- Without the blank characters at both ends. -/
def trim (cs : List Char) : List Char := (dropBlank (dropBlank cs).reverse).reverse

/-- There is nothing but white space. -/
def allBlank (s : String) : Bool := s.toList.all isBlank

end Circulation.Text
