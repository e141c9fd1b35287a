/- # Circulation.Proofs.Time.Word -- days are added in machine words

Loans are dated by `addDays?`, which reckons in whole numbers. The clock of a machine does not: it keeps
the date and the second of the day apart, and adds days in words of sixty-four bits, which wrap around
silently. Of all its steps only the product, the seconds of the period, is checked; the seconds of the
day are then added to it, the whole days in the sum are taken off again and carried over to the date,
and nothing looks at a carry. `addDaysInWords?` stands for such an addition. No loan is opened by it: it
is written down to show that no step of it wraps, and that it comes to the instant that whole numbers
lead to (`addDaysInWords?_eq`). A period that passes its check leaves room for a day, and the whole days
in it leave room for the date of any instant.
-/
import Mathlib.Algebra.Group.Nat.Defs
import Circulation.Proofs.Time.Period

namespace Circulation.Time.Instant

/-! ## Words -/

/-- A product of words, unless it does not fit into a word. -/
def checkedMul? (a b : Int64) : Option Int64 :=
  if a.toBitVec.smulOverflow b.toBitVec then none else some (a * b)

/-- What has wrapped around is what it was, if that fits. -/
theorem bmod_of_fits64 {n : Int} (fits : Fits64 n) : n.bmod (2 ^ 64) = n := by
  unfold Fits64 at fits
  apply Int.bmod_eq_of_le_mul_two <;> omega

theorem toInt_ofInt_of_fits64 {n : Int} (fits : Fits64 n) : (Int64.ofInt n).toInt = n :=
  Int64.toInt_ofInt.trans (bmod_of_fits64 fits)

theorem checkedMul?_of_fits64 {a b : Int64} (fits : Fits64 (a.toInt * b.toInt)) :
    ∃ c, checkedMul? a b = some c ∧ c.toInt = a.toInt * b.toInt := by
  have room : ¬a.toBitVec.smulOverflow b.toBitVec = true := by
    unfold Fits64 at fits
    simp only [BitVec.smulOverflow, Int64.toInt_toBitVec, Bool.or_eq_true, decide_eq_true_eq]
    omega
  refine ⟨a * b, if_neg room, ?_⟩
  rw [Int64.toInt_mul, bmod_of_fits64 fits]

theorem checkedMul?_of_not_fits64 {a b : Int64} (wide : ¬Fits64 (a.toInt * b.toInt)) :
    checkedMul? a b = none := by
  apply if_pos
  unfold Fits64 at wide
  simp only [BitVec.smulOverflow, Int64.toInt_toBitVec, Bool.or_eq_true, decide_eq_true_eq]
  omega

/-! ## The sum in words -/

/-- The longest period, as a word. -/
def longestWord : Int64 := 9223372036854775

/-- The instant so many days later, as a clock that keeps date and second of the day apart comes to it,
with every number in a word that wraps around. The seconds of the period go to those of the day, and
the whole days in their sum to the date. What is run is `addDays?`; this is for comparison. -/
def addDaysInWords? (t : Instant) (days : Int64) : Option Instant :=
  (checkedMul? days 86400).bind fun period =>
    if longestWord < period then none
    else
      let second := Int64.ofInt t.secondOfDay + period
      let time := second % 86400
      let day := Int64.ofInt (t.seconds / 86400) + (second - time) / 86400
      ofUnix? (day * 86400 + time).toInt t.fraction

/-- The carrying of days, when no step wraps. -/
theorem carry_days {s p : Int} :
    (s / 86400 + (s % 86400 + p - (s % 86400 + p) % 86400) / 86400) * 86400 +
      (s % 86400 + p) % 86400 = s + p := by
  omega

/-- After the product has passed its check every step is exact. -/
theorem toInt_carried {t : Instant} {period : Int64} (positive : 0 < period.toInt)
    (short : period.toInt ≤ longestPeriod) :
    let second := Int64.ofInt t.secondOfDay + period
    let time := second % 86400
    let day := Int64.ofInt (t.seconds / 86400) + (second - time) / 86400
    (day * 86400 + time).toInt = t.seconds + period.toInt := by
  intro second time day
  have least : -8334601228800 ≤ t.seconds := t.inRange.1
  have greatest : t.seconds ≤ 8210266876799 := t.inRange.2
  have length : (86400 : Int64).toInt = 86400 := rfl
  unfold longestPeriod at short
  -- The second of the day, and what it comes to with the period.
  have ofDay : (t.secondOfDay : Int) = t.seconds % 86400 := by
    unfold secondOfDay
    omega
  have second_ : second.toInt = t.seconds % 86400 + period.toInt := by
    have start : (Int64.ofInt t.secondOfDay).toInt = t.seconds % 86400 := by
      rw [ofDay]
      apply toInt_ofInt_of_fits64
      unfold Fits64
      omega
    rw [Int64.toInt_add, start]
    apply bmod_of_fits64
    unfold Fits64
    omega
  have time_ : time.toInt = (t.seconds % 86400 + period.toInt) % 86400 := by
    rw [Int64.toInt_mod, length, second_]
    apply Int.tmod_eq_emod_of_nonneg
    omega
  -- The whole days, which are taken off and carried over.
  have off : (second - time).toInt = t.seconds % 86400 + period.toInt -
      (t.seconds % 86400 + period.toInt) % 86400 := by
    rw [Int64.toInt_sub, second_, time_]
    apply bmod_of_fits64
    unfold Fits64
    omega
  have day_ : day.toInt = t.seconds / 86400 + (t.seconds % 86400 + period.toInt -
      (t.seconds % 86400 + period.toInt) % 86400) / 86400 := by
    have date : (Int64.ofInt (t.seconds / 86400)).toInt = t.seconds / 86400 := by
      apply toInt_ofInt_of_fits64
      unfold Fits64
      omega
    have carried : ((second - time) / 86400).toInt = (t.seconds % 86400 + period.toInt -
        (t.seconds % 86400 + period.toInt) % 86400) / 86400 := by
      rw [Int64.toInt_div, length, off, Int.tdiv_eq_ediv_of_nonneg (by omega)]
      apply bmod_of_fits64
      unfold Fits64
      omega
    rw [Int64.toInt_add, date, carried]
    apply bmod_of_fits64
    unfold Fits64
    omega
  have whole : (day * 86400).toInt = day.toInt * 86400 := by
    rw [Int64.toInt_mul, length]
    apply bmod_of_fits64
    unfold Fits64
    omega
  rw [Int64.toInt_add, whole, time_, day_, carry_days]
  apply bmod_of_fits64
  unfold Fits64
  omega

/-- For every positive number of days that a word can hold, the sum in words is the exact one. -/
theorem addDaysInWords?_eq (t : Instant) {days : Int64} (positive : 0 < days.toInt) :
    t.addDaysInWords? days = t.addDays? days.toInt := by
  have length : (86400 : Int64).toInt = 86400 := rfl
  have longest : longestWord.toInt = longestPeriod := rfl
  unfold addDaysInWords? addDays?
  by_cases fits : Fits64 (days.toInt * (86400 : Int64).toInt)
  · obtain ⟨period, product, exact_⟩ := checkedMul?_of_fits64 fits
    rw [product, Option.bind_some]
    rw [length] at fits exact_
    by_cases short : period.toInt ≤ longestPeriod
    · -- The period passes, and both come to the same second.
      have passes : ¬longestWord < period := by
        rw [Int64.lt_iff_toInt_lt, longest]
        omega
      have period_ : secondsOfDays? days.toInt = some period.toInt := by
        unfold secondsOfDays?
        rw [exact_]
        apply if_pos
        exact ⟨fits, by unfold longestPeriod; omega, exact_ ▸ short⟩
      have sum := toInt_carried (t := t) (by omega) short
      dsimp only at sum ⊢
      rw [if_neg passes, period_, Option.bind_some, sum]
    · have refused : longestWord < period := by
        rw [Int64.lt_iff_toInt_lt, longest]
        omega
      have long : secondsOfDays? days.toInt = none := by
        unfold secondsOfDays?
        apply if_neg
        omega
      rw [if_pos refused, long, Option.bind_none]
  · have wide : secondsOfDays? days.toInt = none := by
      rw [length] at fits
      unfold secondsOfDays?
      apply if_neg
      intro passes
      exact fits passes.1
    rw [checkedMul?_of_not_fits64 fits, wide, Option.bind_none, Option.bind_none]

end Circulation.Time.Instant
