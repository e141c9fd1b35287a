/- # Circulation.Decimal -- numerals in base ten

A numeral is a list of characters. `digits` writes a natural number with no leading zero,
`value?` reads any non-empty run of digits, leading zeros included, and `value?_digits` says that
the second undoes the first. Signed whole numbers are written by `signed` and read back, within
sixty-four bits, by `signed64?`.
-/

namespace Circulation

/-- Whole numbers are kept in sixty-four bits with a sign. -/
def Fits64 (n : Int) : Prop := -9223372036854775808 ≤ n ∧ n < 9223372036854775808

instance (n : Int) : Decidable (Fits64 n) := inferInstanceAs (Decidable (_ ∧ _))

namespace Decimal

/-! ## Digits -/

/-- What a digit is worth. -/
def digit? (c : Char) : Option Nat :=
  if 48 ≤ c.toNat ∧ c.toNat ≤ 57 then some (c.toNat - 48) else none

/-- The character of the last digit of `d`. -/
def digitChar (d : Nat) : Char := Char.ofNat (48 + d % 10)

def isDigit (c : Char) : Bool := (digit? c).isSome

theorem digit?_digitChar (d : Nat) : digit? (digitChar d) = some (d % 10) := by
  have h : ∀ r < 10, digit? (Char.ofNat (48 + r)) = some r := by decide
  exact h _ (Nat.mod_lt _ (by decide))

/-! ## Natural numbers -/

/-- The digits of a natural number, the greatest place first, without leading zeros. -/
def digits (n : Nat) : List Char :=
  if n < 10 then [digitChar n] else digits (n / 10) ++ [digitChar n]
termination_by n

/-- One more digit behind a numeral that is worth `acc`. -/
def shiftIn (acc : Nat) (c : Char) : Option Nat := (digit? c).map (acc * 10 + ·)

/-- The value of a non-empty run of digits. -/
def value? (cs : List Char) : Option Nat :=
  if cs.isEmpty then none else cs.foldlM shiftIn 0

/-- A numeral with at least `width` places, filled with zeros in front. -/
def padded (width n : Nat) : List Char :=
  List.replicate (width - (digits n).length) '0' ++ digits n

theorem digits_ne_nil (n : Nat) : digits n ≠ [] := by
  unfold digits
  split <;> simp

theorem foldlM_shiftIn_digits (n : Nat) : (digits n).foldlM shiftIn 0 = some n := by
  induction n using digits.induct with
  | case1 n h =>
    rw [digits, if_pos h]
    simp [shiftIn, digit?_digitChar, Nat.mod_eq_of_lt h]
  | case2 n h ih =>
    rw [digits, if_neg h, List.foldlM_append, ih]
    simp [shiftIn, digit?_digitChar]
    omega

theorem value?_digits (n : Nat) : value? (digits n) = some n := by
  simp [value?, digits_ne_nil, foldlM_shiftIn_digits]

/-! ## Signed numbers -/

/-- A whole number, with a minus sign if it is negative. -/
def signed (n : Int) : List Char :=
  if n < 0 then '-' :: digits n.natAbs else digits n.natAbs

/-- A whole number of sixty-four bits. A minus sign must not stand before zero. -/
def signed64? (cs : List Char) : Option Int := do
  let n ← match cs with
    | '-' :: rest => do
      let m ← value? rest
      if m = 0 then none else some (-(m : Int))
    | _ => (value? cs).map Int.ofNat
  if Fits64 n then some n else none

/-- The text of a whole number. -/
def text (n : Int) : String := String.ofList (signed n)

end Decimal

end Circulation
