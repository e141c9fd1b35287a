/- # Circulation.Proofs.Json.Grammar -- what a JSON text is

The grammar of JSON texts, rule by rule, as a relation between trees and bytes. It does not mention
the reader: a numeral is a sign, a whole part, a fraction and an exponent, a literal is a row of
plain bytes and escapes, and white space may stand around every value, before every key and before
every colon. One tree has many texts. The printer writes one of them, if the literals that the tree
keeps are literals.
-/
import Circulation.Json.Printer

namespace Circulation.Json

/-! ## Literals -/

/-- What may stand between the quotes of a string. -/
inductive IsLiteral : Bytes → Prop where
  | nil : IsLiteral []
  | plain {b : UInt8} {rest : Bytes} :
      0x20 ≤ b → b ≠ 0x22 → b ≠ 0x5C → IsLiteral rest → IsLiteral (b :: rest)
  | short {e : UInt8} {rest : Bytes} :
      (shortEscape? e).isSome → IsLiteral rest → IsLiteral (0x5C :: e :: rest)
  | numeric {a b c d : UInt8} {rest : Bytes} :
      (hexDigit? a).isSome → (hexDigit? b).isSome → (hexDigit? c).isSome →
      (hexDigit? d).isSome → IsLiteral rest → IsLiteral (0x5C :: 0x75 :: a :: b :: c :: d :: rest)

theorem IsLiteral.append {a b : Bytes} (ha : IsLiteral a) (hb : IsLiteral b) :
    IsLiteral (a ++ b) := by
  induction ha with
  | nil => exact hb
  | plain low quote backslash _ ih => exact .plain low quote backslash ih
  | short known _ ih => exact .short known ih
  | numeric h₁ h₂ h₃ h₄ _ ih => exact .numeric h₁ h₂ h₃ h₄ ih

/-! ## Numerals -/

/-- A row of digits, which may be empty. -/
def IsDigits (ds : Bytes) : Prop := ∀ d ∈ ds, isDigit d = true

/-- The whole part of a numeral: no zero stands before another digit. -/
inductive IsWhole : Bytes → Prop where
  | zero : IsWhole [0x30]
  | more {d : UInt8} {ds : Bytes} :
      isDigit d = true → d ≠ 0x30 → IsDigits ds → IsWhole (d :: ds)

theorem IsWhole.exists_cons {bs : Bytes} (h : IsWhole bs) :
    ∃ d ds, bs = d :: ds ∧ isDigit d = true := by
  cases h with
  | zero => exact ⟨0x30, [], rfl, rfl⟩
  | more digit _ _ => exact ⟨_, _, rfl, digit⟩

/-- A point and digits, or nothing. -/
inductive IsFraction : Bytes → Prop where
  | none : IsFraction []
  | digits {d : UInt8} {ds : Bytes} :
      isDigit d = true → IsDigits ds → IsFraction (0x2E :: d :: ds)

/-- The letter E in either case, perhaps a sign, and digits, or nothing. -/
inductive IsExponent : Bytes → Prop where
  | none : IsExponent []
  | digits {e d : UInt8} {ds : Bytes} :
      e = 0x65 ∨ e = 0x45 → isDigit d = true → IsDigits ds → IsExponent (e :: d :: ds)
  | signed {e s d : UInt8} {ds : Bytes} :
      e = 0x65 ∨ e = 0x45 → s = 0x2B ∨ s = 0x2D → isDigit d = true → IsDigits ds →
      IsExponent (e :: s :: d :: ds)

/-- A numeral, with or without a minus sign. -/
inductive IsNumeral : Bytes → Prop where
  | plain {whole fraction exponent : Bytes} :
      IsWhole whole → IsFraction fraction → IsExponent exponent →
      IsNumeral (whole ++ (fraction ++ exponent))
  | minus {whole fraction exponent : Bytes} :
      IsWhole whole → IsFraction fraction → IsExponent exponent →
      IsNumeral (0x2D :: (whole ++ (fraction ++ exponent)))

/-! ## Texts -/

/-- White space between tokens. -/
def Spaces (bs : Bytes) : Prop := ∀ b ∈ bs, isSpace b = true

theorem Spaces.nil : Spaces [] := by
  intro b h
  cases h

/-- What a stretch of text is the text of: a value, or the inside of an array or of an object that
is not empty. -/
inductive Part where
  | tree (tree : Json)
  | elements (elements : List Json)
  | members (members : List (Bytes × Json))

/-- The bytes are a text of the part. -/
inductive Text : Part → Bytes → Prop where
  | spaced {j : Json} {before bs after : Bytes} :
      Spaces before → Text (.tree j) bs → Spaces after → Text (.tree j) (before ++ bs ++ after)
  | null : Text (.tree .null) [0x6E, 0x75, 0x6C, 0x6C]
  | yes : Text (.tree (.bool true)) [0x74, 0x72, 0x75, 0x65]
  | no : Text (.tree (.bool false)) [0x66, 0x61, 0x6C, 0x73, 0x65]
  | number {numeral : Bytes} : IsNumeral numeral → Text (.tree (.number numeral)) numeral
  | string {literal : Bytes} : IsLiteral literal → Text (.tree (.string literal)) (quoted literal)
  | emptyArray {inside : Bytes} :
      Spaces inside → Text (.tree (.array [])) (0x5B :: inside ++ [0x5D])
  | array {es : List Json} {inside : Bytes} :
      Text (.elements es) inside → Text (.tree (.array es)) (0x5B :: inside ++ [0x5D])
  | emptyObject {inside : Bytes} :
      Spaces inside → Text (.tree (.object [])) (0x7B :: inside ++ [0x7D])
  | object {ms : List (Bytes × Json)} {inside : Bytes} :
      Text (.members ms) inside → Text (.tree (.object ms)) (0x7B :: inside ++ [0x7D])
  | lastElement {e : Json} {bs : Bytes} : Text (.tree e) bs → Text (.elements [e]) bs
  | element {e : Json} {es : List Json} {bs rest : Bytes} :
      Text (.tree e) bs → Text (.elements es) rest → Text (.elements (e :: es)) (bs ++ 0x2C :: rest)
  | lastMember {key : Bytes} {v : Json} {before between bs : Bytes} :
      Spaces before → IsLiteral key → Spaces between → Text (.tree v) bs →
      Text (.members [(key, v)]) (before ++ quoted key ++ between ++ 0x3A :: bs)
  | member {m : Bytes × Json} {ms : List (Bytes × Json)} {bs rest : Bytes} :
      Text (.members [m]) bs → Text (.members ms) rest →
      Text (.members (m :: ms)) (bs ++ 0x2C :: rest)

/-! ## The compact text -/

/-- The key of the member is a literal, and the compact text of its value is a text of it. -/
def Writable (m : Bytes × Json) : Prop := IsLiteral m.1 ∧ Text (.tree m.2) m.2.render

theorem Writable.text {m : Bytes × Json} (h : Writable m) :
    Text (.members [m]) (quoted m.1 ++ 0x3A :: m.2.render) := by
  simpa using Text.lastMember .nil h.1 .nil h.2

theorem text_renderMembers {ms : List (Bytes × Json)} (some : ms ≠ [])
    (h : ∀ m ∈ ms, Writable m) : Text (.members ms) (renderMembers ms) := by
  induction ms with
  | nil => exact absurd rfl some
  | cons m rest ih =>
    have first := (h m List.mem_cons_self).text
    cases rest with
    | nil => exact first
    | cons m' rest =>
      have more := ih (List.cons_ne_nil _ _) fun x hx => h x (List.mem_cons_of_mem _ hx)
      simpa [renderMembers] using Text.member first more

/-- The compact text of an object is a text of it, if those of its members are. -/
theorem text_render_object {ms : List (Bytes × Json)} (h : ∀ m ∈ ms, Writable m) :
    Text (.tree (.object ms)) (render (.object ms)) := by
  cases ms with
  | nil => exact .emptyObject .nil
  | cons m rest => exact .object (text_renderMembers (List.cons_ne_nil _ _) h)

end Circulation.Json
