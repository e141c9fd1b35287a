/- # Circulation.Json.Printer -- writing a tree

The compact text of a tree: no white space, members in their order, literals as they are kept.
-/
import Circulation.Json.Literal
import Circulation.Decimal

namespace Circulation.Json

/-! ## Trees of values -/

/-- The tree of a text. -/
def ofText (s : String) : Json := .string (Literal.ofText s)

/-- The tree of a whole number. -/
def ofInt (n : Int) : Json := .number (Bytes.ofChars (Decimal.signed n))

/-- A member of an object. -/
def entry (key : String) (value : Json) : Bytes × Json := (Literal.ofText key, value)

/-- A member that is left out if there is no value. -/
def entry? (key : String) (value : Option Json) : List (Bytes × Json) :=
  value.toList.map (entry key)

/-! ## Text -/

/-- A literal between its quotes. -/
def quoted (literal : Bytes) : Bytes := 0x22 :: literal ++ [0x22]

mutual

/-- The compact text of a tree. -/
def render : Json → Bytes
  | .null => [0x6E, 0x75, 0x6C, 0x6C]
  | .bool true => [0x74, 0x72, 0x75, 0x65]
  | .bool false => [0x66, 0x61, 0x6C, 0x73, 0x65]
  | .number numeral => numeral
  | .string literal => quoted literal
  | .array elements => 0x5B :: renderElements elements ++ [0x5D]
  | .object members => 0x7B :: renderMembers members ++ [0x7D]

/-- Elements with commas between them. -/
def renderElements : List Json → Bytes
  | [] => []
  | [e] => render e
  | e :: e' :: rest => render e ++ 0x2C :: renderElements (e' :: rest)

/-- Members with commas between them. -/
def renderMembers : List (Bytes × Json) → Bytes
  | [] => []
  | [(k, v)] => quoted k ++ 0x3A :: render v
  | (k, v) :: m :: rest => quoted k ++ 0x3A :: render v ++ 0x2C :: renderMembers (m :: rest)

end

end Circulation.Json
