/- # Circulation.Proofs.Json.Spelling -- the spellings of a text inside quotes

A literal spells a text character by character. A character stands for itself, if it is no control,
quote or backslash; or it is written as one of the short escapes; or by the four digits of its
number; or, beyond the sixteen-bit numbers, by two such numbers, a surrogate pair. Every spelling is
a literal of the grammar and is read as the text; what is written is one of the spellings.
-/
import Mathlib.Tactic.SplitIfs
import Circulation.Json.Record
import Circulation.Proofs.Json.Grammar

namespace Circulation.Json.Literal

/-- The bytes are a literal for the characters. -/
inductive Spells : List Char → Bytes → Prop where
  | nil : Spells [] []
  | plain {c : Char} {cs : List Char} {bs : Bytes} :
      0x20 ≤ c.toNat → c ≠ '"' → c ≠ '\\' → Spells cs bs →
      Spells (c :: cs) (String.utf8EncodeChar c ++ bs)
  | short {c : Char} {cs : List Char} {e b : UInt8} {bs : Bytes} :
      shortEscape? e = some b → c.toNat = b.toNat → Spells cs bs →
      Spells (c :: cs) (0x5C :: e :: bs)
  | numeric {c : Char} {cs : List Char} {h₁ h₂ h₃ h₄ : UInt8} {bs : Bytes} :
      unit? h₁ h₂ h₃ h₄ = some c.toNat → Spells cs bs →
      Spells (c :: cs) (0x5C :: 0x75 :: h₁ :: h₂ :: h₃ :: h₄ :: bs)
  | pair {c : Char} {cs : List Char} {h₁ h₂ h₃ h₄ l₁ l₂ l₃ l₄ : UInt8} {high low : Nat}
      {bs : Bytes} :
      unit? h₁ h₂ h₃ h₄ = some high → unit? l₁ l₂ l₃ l₄ = some low →
      0xD800 ≤ high → high ≤ 0xDBFF → 0xDC00 ≤ low → low ≤ 0xDFFF →
      c.toNat = 0x10000 + (high - 0xD800) * 0x400 + (low - 0xDC00) → Spells cs bs →
      Spells (c :: cs) (0x5C :: 0x75 :: h₁ :: h₂ :: h₃ :: h₄ ::
        0x5C :: 0x75 :: l₁ :: l₂ :: l₃ :: l₄ :: bs)

/-! ## Spellings are literals -/

/-- The bytes of a character that stands for itself are plain bytes of a literal. -/
theorem plain_of_mem {c : Char} (low : 0x20 ≤ c.toNat) (quote : c ≠ '"') (backslash : c ≠ '\\')
    {b : UInt8} (h : b ∈ String.utf8EncodeChar c) : 0x20 ≤ b ∧ b ≠ 0x22 ∧ b ≠ 0x5C := by
  have ne : ∀ {d : Char}, c ≠ d → c.toNat ≠ d.toNat := by
    intro d h e
    exact h (Char.toNat_inj.mp e)
  have noQuote : c.toNat ≠ 0x22 := ne quote
  have noBackslash : c.toNat ≠ 0x5C := ne backslash
  refine ⟨?_, ?_, ?_⟩
  · rw [UInt8.le_iff_toNat_le]
    have : (0x20 : UInt8).toNat = 0x20 := rfl
    rcases Bytes.toNat_of_mem h with e | e <;> omega
  · rintro rfl
    have : (0x22 : UInt8).toNat = 0x22 := rfl
    rcases Bytes.toNat_of_mem h with e | e <;> omega
  · rintro rfl
    have : (0x5C : UInt8).toNat = 0x5C := rfl
    rcases Bytes.toNat_of_mem h with e | e <;> omega

theorem shortEscape?_lt {e b : UInt8} (h : shortEscape? e = some b) : b.toNat < 0x80 := by
  unfold shortEscape? at h
  split_ifs at h with same <;> cases h
  · rcases same with rfl | rfl | rfl <;> decide
  all_goals decide

theorem isSome_of_unit? {a b c d : UInt8} {n : Nat} (h : unit? a b c d = some n) :
    (hexDigit? a).isSome ∧ (hexDigit? b).isSome ∧ (hexDigit? c).isSome ∧ (hexDigit? d).isSome := by
  cases ha : hexDigit? a <;> cases hb : hexDigit? b <;> cases hc : hexDigit? c <;>
    cases hd : hexDigit? d <;> simp_all [unit?]

theorem isLiteral_of_plain {bs : Bytes} (h : ∀ b ∈ bs, 0x20 ≤ b ∧ b ≠ 0x22 ∧ b ≠ 0x5C) :
    IsLiteral bs := by
  induction bs with
  | nil => exact .nil
  | cons b bs ih =>
    obtain ⟨low, quote, backslash⟩ := h b List.mem_cons_self
    exact .plain low quote backslash (ih fun c hc => h c (List.mem_cons_of_mem _ hc))

theorem Spells.isLiteral {cs : List Char} {bs : Bytes} (h : Spells cs bs) : IsLiteral bs := by
  induction h with
  | nil => exact .nil
  | plain low quote backslash _ ih =>
    exact (isLiteral_of_plain fun b => plain_of_mem low quote backslash).append ih
  | short known _ _ ih => exact .short (by rw [known]; rfl) ih
  | numeric unit _ ih =>
    obtain ⟨d₁, d₂, d₃, d₄⟩ := isSome_of_unit? unit
    exact .numeric d₁ d₂ d₃ d₄ ih
  | pair unit unit' _ _ _ _ _ _ ih =>
    obtain ⟨d₁, d₂, d₃, d₄⟩ := isSome_of_unit? unit
    obtain ⟨e₁, e₂, e₃, e₄⟩ := isSome_of_unit? unit'
    exact .numeric d₁ d₂ d₃ d₄ (.numeric e₁ e₂ e₃ e₄ ih)

/-! ## Reading a spelling -/

theorem pieces?_plain {bs : Bytes} (h : ∀ b ∈ bs, b ≠ 0x5C) (rest : Bytes) :
    pieces? (bs ++ rest) = (pieces? rest).map (bs.map .byte ++ ·) := by
  induction bs with
  | nil => simp
  | cons b bs ih =>
    have more := ih fun c hc => h c (List.mem_cons_of_mem _ hc)
    have noEscape : b ≠ 0x5C := h b List.mem_cons_self
    rw [List.cons_append, pieces?.eq_def]
    simp only [if_neg noEscape, more]
    cases pieces? rest <;> rfl

theorem pieces?_short {e b : UInt8} (known : shortEscape? e = some b) (rest : Bytes) :
    pieces? (0x5C :: e :: rest) = (pieces? rest).map (.byte b :: ·) := by
  have letter : e ≠ 0x75 := by
    rintro rfl
    cases known
  rw [pieces?.eq_def]
  simp only [if_true, letter, false_implies, implies_true, known, Option.bind_eq_bind,
    Option.bind_some]
  cases pieces? rest <;> rfl

theorem pieces?_numeric {a b c d : UInt8} {n : Nat} (unit : unit? a b c d = some n)
    (rest : Bytes) :
    pieces? (0x5C :: 0x75 :: a :: b :: c :: d :: rest) = (pieces? rest).map (.unit n :: ·) := by
  rw [pieces?.eq_def]
  simp only [if_true, unit, Option.bind_eq_bind, Option.bind_some]
  cases pieces? rest <;> rfl

theorem join?_bytes (bs : Bytes) (ps : List Piece) :
    join? (bs.map .byte ++ ps) = (join? ps).map (bs ++ ·) := by
  induction bs with
  | nil => simp
  | cons b bs ih =>
    rw [List.map_cons, List.cons_append, join?, ih]
    cases join? ps <;> rfl

/-- The number of a character is no surrogate. -/
theorem not_surrogate (c : Char) :
    isHighSurrogate c.toNat = false ∧ isLowSurrogate c.toNat = false := by
  have valid : c.toNat < 0xD800 ∨ 0xDFFF < c.toNat ∧ c.toNat < 0x110000 := c.valid
  simp only [isHighSurrogate, isLowSurrogate, Bool.and_eq_false_imp, decide_eq_true_eq,
    decide_eq_false_iff_not]
  omega

theorem join?_numeric (c : Char) (ps : List Piece) :
    join? (.unit c.toNat :: ps) = (join? ps).map (String.utf8EncodeChar c ++ ·) := by
  obtain ⟨high, low⟩ := not_surrogate c
  rw [join?.eq_def]
  simp [high, low, Char.ofNat_toNat]

theorem join?_pair {c : Char} {high low : Nat} (h₁ : 0xD800 ≤ high) (h₂ : high ≤ 0xDBFF)
    (l₁ : 0xDC00 ≤ low) (l₂ : low ≤ 0xDFFF)
    (number : c.toNat = 0x10000 + (high - 0xD800) * 0x400 + (low - 0xDC00)) (ps : List Piece) :
    join? (.unit high :: .unit low :: ps) = (join? ps).map (String.utf8EncodeChar c ++ ·) := by
  have isHigh : isHighSurrogate high = true := by simp [isHighSurrogate, h₁, h₂]
  have isLow : isLowSurrogate low = true := by simp [isLowSurrogate, l₁, l₂]
  rw [join?.eq_def]
  simp [isHigh, isLow, ← number, Char.ofNat_toNat]

theorem Spells.join? {cs : List Char} {bs : Bytes} (h : Spells cs bs) :
    ∃ ps, pieces? bs = some ps ∧ Literal.join? ps = some (Bytes.ofChars cs) := by
  induction h with
  | nil => exact ⟨[], rfl, rfl⟩
  | @plain c cs bs low quote backslash _ ih =>
    obtain ⟨ps, taken, joined⟩ := ih
    refine ⟨(String.utf8EncodeChar c).map .byte ++ ps, ?_, ?_⟩
    · rw [pieces?_plain fun b hb => (plain_of_mem low quote backslash hb).2.2, taken]
      rfl
    · rw [join?_bytes, joined]
      rfl
  | @short c cs e b bs known number _ ih =>
    obtain ⟨ps, taken, joined⟩ := ih
    refine ⟨.byte b :: ps, ?_, ?_⟩
    · rw [pieces?_short known, taken]
      rfl
    · rw [Literal.join?, joined]
      have one := Bytes.utf8EncodeChar_of_toNat number (shortEscape?_lt known)
      simp [Bytes.ofChars, one]
  | @numeric c cs h₁ h₂ h₃ h₄ bs unit _ ih =>
    obtain ⟨ps, taken, joined⟩ := ih
    refine ⟨.unit c.toNat :: ps, ?_, ?_⟩
    · rw [pieces?_numeric unit, taken]
      rfl
    · rw [join?_numeric, joined]
      rfl
  | @pair c cs h₁ h₂ h₃ h₄ l₁ l₂ l₃ l₄ high low bs unit unit' r₁ r₂ r₃ r₄ number _ ih =>
    obtain ⟨ps, taken, joined⟩ := ih
    refine ⟨.unit high :: .unit low :: ps, ?_, ?_⟩
    · rw [pieces?_numeric unit, pieces?_numeric unit', taken]
      rfl
    · rw [join?_pair r₁ r₂ r₃ r₄ number, joined]
      rfl

/-- A spelling is read as the text that it spells. -/
theorem Spells.text? {cs : List Char} {bs : Bytes} (h : Spells cs bs) :
    Literal.text? bs = some (String.ofList cs) := by
  obtain ⟨ps, taken, joined⟩ := h.join?
  have bytes : Bytes.ofChars cs = Bytes.ofText (String.ofList cs) := by
    rw [Bytes.ofText, String.toList_ofList]
  rw [Literal.text?, taken, Option.bind_some, joined, Option.bind_some, bytes, Bytes.text?_ofText]

/-! ## Writing a spelling -/

theorem Spells.escape {cs : List Char} {bs : Bytes} (h : Spells cs bs) (c : Char) :
    Spells (c :: cs) (Literal.escape c ++ bs) := by
  unfold Literal.escape
  split_ifs with h₁ h₂ h₃ h₄ h₅ h₆ h₇ control
  · exact .short (e := 0x22) rfl (by rw [h₁]; rfl) h
  · exact .short (e := 0x5C) rfl (by rw [h₂]; rfl) h
  · exact .short (e := 0x62) rfl (by rw [h₃]; rfl) h
  · exact .short (e := 0x66) rfl (by rw [h₄]; rfl) h
  · exact .short (e := 0x6E) rfl (by rw [h₅]; rfl) h
  · exact .short (e := 0x72) rfl (by rw [h₆]; rfl) h
  · exact .short (e := 0x74) rfl (by rw [h₇]; rfl) h
  · have digits : ∀ n < 0x20, unit? 0x30 0x30 (hexDigit (n / 16)) (hexDigit (n % 16)) = some n := by
      decide
    exact .numeric (digits _ control) h
  · exact .plain (Nat.not_lt.mp control) h₁ h₂ h

/-- What is written for a text spells it. -/
theorem spells_ofText (s : String) : Spells s.toList (ofText s) := by
  unfold ofText
  induction s.toList with
  | nil => exact .nil
  | cons c cs ih => exact ih.escape c

end Circulation.Json.Literal
