/- # Circulation.Json.Record -- reading a tree as a record

A record has declared fields. It is read from an object, in which each declared key may stand at
most once and other keys are passed over, or from an array with the values in the order of
declaration, in which values at the end may be missing if the record allows it. Either way the
result is a slot for each field: the tree at the field, or nothing.
-/
import Circulation.Json.Literal
import Circulation.Decimal

namespace Circulation.Json

/-! ## Values -/

/-- The text of a string. -/
def text? : Json → Option String
  | .string literal => Literal.text? literal
  | _ => none

/-- A whole number of sixty-four bits. -/
def int? : Json → Option Int
  | .number numeral => Decimal.signed64? (numeral.map fun b => Char.ofNat b.toNat)
  | _ => none

/-- The name of one of several choices: a string, or the only key of an object whose value is
null. -/
def choice? : Json → Option String
  | .string literal => Literal.text? literal
  | .object [(key, .null)] => Literal.text? key
  | _ => none

/-! ## Slots -/

/-- The tree at a declared field, if there is one. -/
abbrev Slot := Option Json

/-- The members of an object with their keys read. Every key must denote a text. -/
def readKeys? : List (Bytes × Json) → Option (List (String × Json))
  | [] => some []
  | (key, value) :: rest => do
    let name ← Literal.text? key
    let more ← readKeys? rest
    return (name, value) :: more

/-- The slot of one field. The key must not stand twice. -/
def slot? (members : List (String × Json)) (name : String) : Option Slot :=
  match members.filter (·.1 == name) with
  | [] => some none
  | [(_, value)] => some (some value)
  | _ => none

/-- The slots of the declared fields. An array must give at least `least` of them. -/
def slots? (names : List String) (least : Nat) : Json → Option (List Slot)
  | .object members => do
    let members ← readKeys? members
    names.mapM (slot? members)
  | .array elements =>
    if least ≤ elements.length ∧ elements.length ≤ names.length then
      some (elements.map some ++ List.replicate (names.length - elements.length) none)
    else none
  | _ => none

/-- The value of a field that must be there. -/
def required {α : Type} (read : Json → Option α) (slot : Slot) : Option α := slot.bind read

/-- The value of a field that may be absent: missing or null. -/
def optional {α : Type} (read : Json → Option α) : Slot → Option (Option α)
  | none => some none
  | some .null => some none
  | some tree => (read tree).map some

/-- The value of a field that has another value when it is missing. -/
def withDefault {α : Type} (value : α) (read : Json → Option α) : Slot → Option α
  | none => some value
  | some tree => read tree

end Circulation.Json
