/- # Circulation.Json.Literal -- what stands between the quotes of a string

`ofText` writes a text as a string literal: a quote, a backslash and the characters below the space
are escaped, everything else stands for itself. `text?` reads a literal in any of its spellings. It
works in two passes: the first takes the literal apart into plain bytes and the UTF-16 units of its
numeric escapes, the second joins surrogate pairs and encodes. A surrogate alone denotes nothing.
-/
import Circulation.Json.Basic

namespace Circulation.Json.Literal

/-! ## Writing -/

/-- The hexadecimal digit of a value below sixteen, in lower case. -/
def hexDigit (n : Nat) : UInt8 := if n < 10 then .ofNat (0x30 + n) else .ofNat (0x57 + n)

/-- One character as it is written inside a string. -/
def escape (c : Char) : Bytes :=
  if c = '"' then [0x5C, 0x22]
  else if c = '\\' then [0x5C, 0x5C]
  else if c = '\x08' then [0x5C, 0x62]
  else if c = '\x0c' then [0x5C, 0x66]
  else if c = '\n' then [0x5C, 0x6E]
  else if c = '\r' then [0x5C, 0x72]
  else if c = '\t' then [0x5C, 0x74]
  else if c.toNat < 0x20 then
    [0x5C, 0x75, 0x30, 0x30, hexDigit (c.toNat / 16), hexDigit (c.toNat % 16)]
  else String.utf8EncodeChar c

/-- A text as a string literal. -/
def ofText (s : String) : Bytes := s.toList.flatMap escape

/-! ## Reading -/

/-- A byte that stands for itself, or the unit of a numeric escape. -/
inductive Piece where
  | byte (b : UInt8)
  | unit (n : Nat)

/-- The value of four hexadecimal digits. -/
def unit? (a b c d : UInt8) : Option Nat := do
  let a ← hexDigit? a
  let b ← hexDigit? b
  let c ← hexDigit? c
  let d ← hexDigit? d
  return ((a * 16 + b) * 16 + c) * 16 + d

/-- A literal taken apart. -/
def pieces? : Bytes → Option (List Piece)
  | [] => some []
  | b :: rest =>
    if b = 0x5C then
      match rest with
      | 0x75 :: h₁ :: h₂ :: h₃ :: h₄ :: rest' => do
        let n ← unit? h₁ h₂ h₃ h₄
        let ps ← pieces? rest'
        return .unit n :: ps
      | e :: rest' => do
        let plain ← shortEscape? e
        let ps ← pieces? rest'
        return .byte plain :: ps
      | [] => none
    else do
      let ps ← pieces? rest
      return .byte b :: ps

/-- The first half of a surrogate pair. -/
def isHighSurrogate (n : Nat) : Bool := 0xD800 ≤ n && n ≤ 0xDBFF

/-- The second half of a surrogate pair. -/
def isLowSurrogate (n : Nat) : Bool := 0xDC00 ≤ n && n ≤ 0xDFFF

/-- The pieces as bytes, units encoded. -/
def join? : List Piece → Option Bytes
  | [] => some []
  | .byte b :: rest => (b :: ·) <$> join? rest
  | .unit n :: rest =>
    if isHighSurrogate n then
      match rest with
      | .unit m :: rest' =>
        if isLowSurrogate m then
          let c := Char.ofNat (0x10000 + (n - 0xD800) * 0x400 + (m - 0xDC00))
          (String.utf8EncodeChar c ++ ·) <$> join? rest'
        else none
      | _ => none
    else if isLowSurrogate n then none
    else (String.utf8EncodeChar (Char.ofNat n) ++ ·) <$> join? rest

/-- The text that a literal denotes, if it denotes one. -/
def text? (literal : Bytes) : Option String :=
  (pieces? literal).bind fun ps => (join? ps).bind Bytes.text?

end Circulation.Json.Literal
