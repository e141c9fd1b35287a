/- # Circulation.Correlation -- correlation numbers

A new command gets a number of 122 random bits in the form of a UUID of version 4: hexadecimal
digits in lower case in groups of eight, four, four, four and twelve. One digit is the version, and
two bits of another are the variant.
-/
import Circulation.Json.Literal

namespace Circulation.Correlation

/-- The last `count` hexadecimal digits of a number. -/
def hexDigits (count n : Nat) : List Char :=
  (List.range count).reverse.map fun place =>
    Char.ofNat (Json.Literal.hexDigit (n / Nat.pow 16 place % 16)).toNat

/-- The form of version 4 for these bits. -/
def ofBits (bits : Nat) : String :=
  let group (shift count : Nat) : List Char := hexDigits count (bits >>> shift)
  let variant : Nat := 8 + (bits >>> 60) % 4
  String.ofList (group 90 8 ++ '-' :: group 74 4 ++ '-' :: '4' :: group 62 3 ++
    '-' :: hexDigits 1 variant ++ group 48 3 ++ '-' :: group 0 12)

/-- A hexadecimal digit in lower case. -/
def isHexDigit (c : Char) : Bool := c.isDigit || ('a' ≤ c && c ≤ 'f')

/-- The text has the form of version 4. -/
def isVersion4 (s : String) : Bool :=
  let cs := s.toList
  cs.length == 36 && cs.zipIdx.all fun (c, i) =>
    if i == 8 || i == 13 || i == 18 || i == 23 then c == '-'
    else if i == 14 then c == '4'
    else if i == 19 then c == '8' || c == '9' || c == 'a' || c == 'b'
    else isHexDigit c

end Circulation.Correlation
