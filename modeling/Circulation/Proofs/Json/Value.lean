/- # Circulation.Proofs.Json.Value -- texts and whole numbers in a tree

A text stands in a tree as any of its spellings, a choice as any spelling of its name or as the only
key of an object around null, a whole number as its numeral. A value that may be absent is missing,
null or there. Each of them is read as what it stands for, and the trees that are written are of
these forms.
-/
import Circulation.Json.Printer
import Circulation.Proofs.Decimal
import Circulation.Proofs.Json.Spelling

namespace Circulation.Json

/-! ## Texts and choices -/

/-- The tree is a string that spells the text. -/
inductive SpellsText (s : String) : Json → Prop where
  | mk {literal : Bytes} : Literal.Spells s.toList literal → SpellsText s (.string literal)

/-- The tree gives the name of a choice. -/
inductive SpellsChoice (s : String) : Json → Prop where
  | string {literal : Bytes} : Literal.Spells s.toList literal → SpellsChoice s (.string literal)
  | object {key : Bytes} :
      Literal.Spells s.toList key → SpellsChoice s (.object [(key, .null)])

variable {s : String} {j : Json}

theorem text?_of_spells {literal : Bytes} (h : Literal.Spells s.toList literal) :
    Literal.text? literal = some s := by
  rw [h.text?, String.ofList_toList]

theorem SpellsText.text? (h : SpellsText s j) : j.text? = some s := by
  cases h with
  | mk spells => exact text?_of_spells spells

theorem SpellsChoice.choice? (h : SpellsChoice s j) : j.choice? = some s := by
  cases h with
  | string spells => exact text?_of_spells spells
  | object spells => exact text?_of_spells spells

theorem spellsText_ofText (s : String) : SpellsText s (ofText s) := .mk (Literal.spells_ofText s)

theorem spellsChoice_ofText (s : String) : SpellsChoice s (ofText s) :=
  .string (Literal.spells_ofText s)

theorem text_render_ofText (s : String) : Text (.tree (ofText s)) (ofText s).render :=
  .string (Literal.spells_ofText s).isLiteral

theorem writable_entry (name : String) {v : Json} (h : Text (.tree v) v.render) :
    Writable (entry name v) := ⟨(Literal.spells_ofText name).isLiteral, h⟩

/-! ## Whole numbers -/

theorem int?_ofInt {n : Int} (fits : Fits64 n) : (ofInt n).int? = some n := by
  have ascii : ∀ c ∈ Decimal.signed n, c.toNat < 0x80 := by
    intro c hc
    have digit : ∀ c ∈ Decimal.digits n.natAbs, c.toNat < 0x80 := by
      intro c hc
      have := Decimal.isDigit_iff.mp (Decimal.isDigit_of_mem_digits hc)
      omega
    unfold Decimal.signed at hc
    split at hc
    · rcases List.mem_cons.mp hc with rfl | hc
      · decide
      · exact digit c hc
    · exact digit c hc
  have back : (Bytes.ofChars (Decimal.signed n)).map (fun b => Char.ofNat b.toNat) =
      Decimal.signed n := Bytes.map_ofChars ascii
  rw [ofInt, int?, back]
  exact Decimal.signed64?_signed fits

theorem fits64_of_int? {n : Int} (h : j.int? = some n) : Fits64 n := by
  cases j with
  | number numeral => exact Decimal.fits64_of_signed64? h
  | null | bool | string | array | object => cases h

/-- The digit that ends a number, as a byte. -/
theorem ofChars_digitChar (d : Nat) : Bytes.ofChars [Decimal.digitChar d] = [.ofNat (48 + d % 10)] := by
  have small : d % 10 < 10 := Nat.mod_lt d (by decide)
  have : ∀ r < 10, Bytes.ofChars [Char.ofNat (48 + r)] = [UInt8.ofNat (48 + r)] := by decide
  exact this _ small

/-- A positive number begins with a digit that is no zero. -/
theorem ofChars_digits {n : Nat} (positive : 0 < n) :
    ∃ d ds, Bytes.ofChars (Decimal.digits n) = d :: ds ∧ isDigit d = true ∧ d ≠ 0x30 ∧
      IsDigits ds := by
  induction n using Decimal.digits.induct with
  | case1 n small =>
    rw [Decimal.digits, if_pos small, ofChars_digitChar, Nat.mod_eq_of_lt small]
    have : ∀ r < 10, 0 < r → isDigit (.ofNat (48 + r)) = true ∧ UInt8.ofNat (48 + r) ≠ 0x30 := by
      decide
    obtain ⟨digit, some⟩ := this n small positive
    exact ⟨_, [], rfl, digit, some, by intro d h; cases h⟩
  | case2 n large ih =>
    obtain ⟨d, ds, cut, digit, some, digits⟩ := ih (by omega)
    rw [Decimal.digits, if_neg large, Bytes.ofChars_append, ofChars_digitChar, cut]
    refine ⟨d, _, rfl, digit, some, ?_⟩
    have last : ∀ r < 10, isDigit (.ofNat (48 + r)) = true := by decide
    intro c hc
    rcases List.mem_append.mp hc with hc | hc
    · exact digits c hc
    · rw [List.mem_singleton.mp hc]
      exact last _ (Nat.mod_lt n (by decide))

theorem isWhole_digits (n : Nat) : IsWhole (Bytes.ofChars (Decimal.digits n)) := by
  cases n with
  | zero =>
    rw [Decimal.digits_zero]
    exact .zero
  | succ n =>
    obtain ⟨d, ds, cut, digit, some, digits⟩ := ofChars_digits (Nat.succ_pos n)
    rw [cut]
    exact .more digit some digits

theorem text_render_ofInt (n : Int) : Text (.tree (ofInt n)) (ofInt n).render := by
  have whole := isWhole_digits n.natAbs
  refine .number ?_
  unfold Decimal.signed
  split
  · have numeral := IsNumeral.minus whole .none .none
    rw [List.append_nil, List.append_nil] at numeral
    exact numeral
  · have numeral := IsNumeral.plain whole .none .none
    rw [List.append_nil, List.append_nil] at numeral
    exact numeral

/-! ## Values that may be absent -/

/-- The slot is missing or null, or spells the value. -/
inductive SpellsOption {α : Type} (Spells : α → Json → Prop) : Option α → Slot → Prop where
  | missing : SpellsOption Spells none none
  | null : SpellsOption Spells none (some .null)
  | there {a : α} {j : Json} : Spells a j → SpellsOption Spells (some a) (some j)

theorem SpellsOption.optional {α : Type} {Spells : α → Json → Prop} {read : Json → Option α}
    {value : Option α} {slot : Slot} (h : SpellsOption Spells value slot)
    (noNull : read .null = none) (reads : ∀ a j, value = some a → Spells a j → read j = some a) :
    optional read slot = some value := by
  cases h with
  | missing => rfl
  | null => rfl
  | @there a j spells =>
    have read_ := reads a j rfl spells
    cases j with
    | null => cases noNull.symm.trans read_
    | bool | number | string | array | object =>
      rw [Json.optional, read_]
      · rfl
      · exact Json.noConfusion

end Circulation.Json
