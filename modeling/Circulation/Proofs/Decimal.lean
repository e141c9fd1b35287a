/- # Circulation.Proofs.Decimal -- numerals and what they are worth

A run of digits is worth what `value?` says, however many zeros it begins with, and every run of
digits is worth something. A whole number of sixty-four bits is read back from its text, and no
other number is read at all.
-/
import Mathlib.Algebra.Group.Nat.Defs
import Circulation.Decimal

namespace Circulation.Decimal

/-! ## Digits -/

theorem isDigit_iff {c : Char} : isDigit c = true ↔ 48 ≤ c.toNat ∧ c.toNat ≤ 57 := by
  unfold isDigit digit?
  split <;> simp_all

theorem isDigit_digitChar (d : Nat) : isDigit (digitChar d) = true := by
  rw [isDigit, digit?_digitChar]
  rfl

theorem isDigit_of_mem_digits {n : Nat} {c : Char} (h : c ∈ digits n) : isDigit c = true := by
  induction n using digits.induct with
  | case1 n small =>
    rw [digits, if_pos small, List.mem_singleton] at h
    subst h
    exact isDigit_digitChar n
  | case2 n large ih =>
    rw [digits, if_neg large, List.mem_append, List.mem_singleton] at h
    rcases h with h | rfl
    · exact ih h
    · exact isDigit_digitChar n

/-- The number of places is the least that hold the number. -/
theorem length_digits_le {n places : Nat} (some : 0 < places) (h : n < 10 ^ places) :
    (digits n).length ≤ places := by
  induction n using digits.induct generalizing places with
  | case1 n small =>
    rw [digits, if_pos small]
    exact some
  | case2 n large ih =>
    rw [digits, if_neg large, List.length_append, List.length_singleton]
    cases places with
    | zero => exact absurd some (Nat.lt_irrefl 0)
    | succ places =>
      cases places with
      | zero => omega
      | succ places =>
        have := ih (Nat.succ_pos places) (by rw [Nat.pow_succ] at h; omega)
        omega

/-! ## Values -/

theorem foldlM_shiftIn_isDigit {cs : List Char} {acc n : Nat}
    (h : cs.foldlM shiftIn acc = some n) : ∀ c ∈ cs, isDigit c = true := by
  induction cs generalizing acc with
  | nil => simp
  | cons c cs ih =>
    rw [List.foldlM_cons] at h
    obtain ⟨next, first, rest⟩ := Option.bind_eq_some_iff.mp h
    have digit : isDigit c = true := by
      rw [shiftIn] at first
      obtain ⟨d, worth, -⟩ := Option.map_eq_some_iff.mp first
      rw [isDigit, worth]
      rfl
    intro x hx
    rcases List.mem_cons.mp hx with rfl | hx
    · exact digit
    · exact ih rest x hx

theorem isDigit_of_value? {cs : List Char} {n : Nat} (h : value? cs = some n) :
    ∀ c ∈ cs, isDigit c = true := by
  unfold value? at h
  split at h
  · cases h
  · exact foldlM_shiftIn_isDigit h

theorem ne_nil_of_value? {cs : List Char} {n : Nat} (h : value? cs = some n) : cs ≠ [] := by
  rintro rfl
  cases h

/-- Zeros in front do not count. -/
theorem value?_zeros (count : Nat) {cs : List Char} {n : Nat} (h : value? cs = some n) :
    value? (List.replicate count '0' ++ cs) = some n := by
  have some := ne_nil_of_value? h
  have zeros : (List.replicate count '0').foldlM shiftIn 0 = Option.some 0 := by
    induction count with
    | zero => rfl
    | succ count ih =>
      rw [List.replicate_succ, List.foldlM_cons]
      exact ih
  unfold value? at h ⊢
  rw [if_neg (by simpa using some)] at h
  rw [if_neg (by simp [some]), List.foldlM_append, zeros]
  exact h

theorem value?_padded (width n : Nat) : value? (padded width n) = some n :=
  value?_zeros _ (value?_digits n)

theorem length_padded {width n : Nat} (some : 0 < width) (h : n < 10 ^ width) :
    (padded width n).length = width := by
  have := length_digits_le some h
  rw [padded, List.length_append, List.length_replicate]
  omega

/-! ## Signed numbers -/

theorem fits64_of_signed64? {cs : List Char} {n : Int} (h : signed64? cs = some n) : Fits64 n := by
  have checked : ∀ m : Int, (if Fits64 m then some m else none) = some n → Fits64 n := by
    intro m h
    split at h
    · cases h
      assumption
    · cases h
  unfold signed64? at h
  split at h
  · obtain ⟨m, -, h⟩ := Option.bind_eq_some_iff.mp h
    split at h
    · cases h
    · exact checked _ h
  · obtain ⟨m, -, h⟩ := Option.bind_eq_some_iff.mp h
    exact checked m h

theorem digits_zero : digits 0 = ['0'] := by
  rw [digits]
  rfl

/-- A number that fits is read back from its text. -/
theorem signed64?_signed {n : Int} (fits : Fits64 n) : signed64? (signed n) = some n := by
  unfold signed
  split
  next negative =>
    have some_ : n.natAbs ≠ 0 := by omega
    have back : -(n.natAbs : Int) = n := by omega
    simp only [signed64?, value?_digits, if_neg some_, back, Option.bind_eq_bind, Option.bind_some,
      if_pos fits]
  next positive =>
    have back : (n.natAbs : Int) = n := by omega
    have noSign : ∀ rest, digits n.natAbs ≠ '-' :: rest := by
      intro rest cut
      have digit := isDigit_of_mem_digits (n := n.natAbs) (c := '-') (by rw [cut]; simp)
      cases digit
    unfold signed64?
    split
    next rest cut => exact absurd cut (noSign rest)
    next => simp [value?_digits, back, fits]

end Circulation.Decimal
