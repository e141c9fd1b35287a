/- # Circulation.Json.Basic -- the tree of a JSON text

A tree keeps numbers and strings as they are written: a number as its numeral, a string as what
stands between its quotes. Only the grammar of such a literal is known to hold; what it denotes is
found out by the one who reads it. So a member nobody reads may hold a number of any size, or
escapes that denote no character.
-/
import Circulation.Bytes

namespace Circulation

/-- The tree of a JSON text, literals as written. -/
inductive Json where
  | null
  | bool (value : Bool)
  | number (numeral : Bytes)
  | string (literal : Bytes)
  | array (elements : List Json)
  | object (members : List (Bytes × Json))

namespace Json

/-! ## Bytes with a meaning in the grammar -/

/-- Space, tab, line feed and carriage return may stand between tokens. -/
def isSpace (b : UInt8) : Bool := b == 0x20 || b == 0x09 || b == 0x0A || b == 0x0D

def isDigit (b : UInt8) : Bool := 0x30 ≤ b && b ≤ 0x39

/-- The value of a hexadecimal digit in either case. -/
def hexDigit? (b : UInt8) : Option Nat :=
  if 0x30 ≤ b ∧ b ≤ 0x39 then some (b.toNat - 0x30)
  else if 0x41 ≤ b ∧ b ≤ 0x46 then some (b.toNat - 0x37)
  else if 0x61 ≤ b ∧ b ≤ 0x66 then some (b.toNat - 0x57)
  else none

/-- What a one-letter escape stands for. -/
def shortEscape? (b : UInt8) : Option UInt8 :=
  if b = 0x22 ∨ b = 0x5C ∨ b = 0x2F then some b
  else if b = 0x62 then some 0x08
  else if b = 0x66 then some 0x0C
  else if b = 0x6E then some 0x0A
  else if b = 0x72 then some 0x0D
  else if b = 0x74 then some 0x09
  else none

end Json

end Circulation
