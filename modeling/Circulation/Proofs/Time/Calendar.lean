/- # Circulation.Proofs.Time.Calendar -- every day has its date

The date of a day exists, and its number is that day. The year is found by an estimate that is off
by one year at most, and the month and the day by going through the months of the year.
-/
import Mathlib.Algebra.GroupWithZero.Nat
import Mathlib.Tactic.ByContra
import Circulation.Time.Calendar

namespace Circulation.Time.Date

/-! ## Years -/

/-- The year of a day is the one between whose beginning and end the day lies. -/
theorem yearOfDay_spec (n : Int) :
    yearStart (yearOfDay n) ≤ n ∧ n < yearStart (yearOfDay n + 1) := by
  unfold yearOfDay
  simp only
  generalize hy : (400 * (n + 719528)) / 146097 = y
  have estimate : yearStart (y - 1) ≤ n ∧ n < yearStart (y + 2) := by
    unfold yearStart leapsBefore
    omega
  split
  · refine ⟨estimate.1, ?_⟩
    rw [Int.sub_add_cancel]
    assumption
  · split
    · refine ⟨by assumption, ?_⟩
      rw [Int.add_assoc]
      exact estimate.2
    · exact ⟨by omega, by omega⟩

theorem yearStart_mono {a b : Int} (h : a ≤ b) : yearStart a ≤ yearStart b := by
  unfold yearStart leapsBefore
  omega

/-- A day before the end of a year falls into that year or an earlier one. -/
theorem yearOfDay_le {n y : Int} (h : n < yearStart (y + 1)) : yearOfDay n ≤ y := by
  by_contra later
  have := yearStart_mono (show y + 1 ≤ yearOfDay n by omega)
  have := (yearOfDay_spec n).1
  omega

/-- A day from the beginning of a year on falls into that year or a later one. -/
theorem le_yearOfDay {n y : Int} (h : yearStart y ≤ n) : y ≤ yearOfDay n := by
  by_contra earlier
  have := yearStart_mono (show yearOfDay n + 1 ≤ y by omega)
  have := (yearOfDay_spec n).2
  omega

/-! ## Months -/

theorem sum_monthLengths (y : Int) : (monthLengths y).sum = yearLength y := by
  unfold monthLengths yearLength
  cases isLeap y <;> rfl

/-- A day within the months has a place in one of them. -/
theorem placeAmong_spec {lengths : List Nat} {n : Nat} (h : n < lengths.sum) :
    (placeAmong lengths n).2 < lengths.getD (placeAmong lengths n).1 0 ∧
      (lengths.take (placeAmong lengths n).1).sum + (placeAmong lengths n).2 = n := by
  induction lengths generalizing n with
  | nil => cases h
  | cons length rest ih =>
    rw [List.sum_cons] at h
    unfold placeAmong
    by_cases first : n < length
    · simp [first]
    · obtain ⟨inside, total⟩ := ih (n := n - length) (by omega)
      simp only [if_neg first, List.getD_cons_succ, List.take_succ_cons, List.sum_cons]
      exact ⟨inside, by omega⟩

/-- A month with days is one of twelve, and has thirty-one at most. -/
theorem monthLengths_getD (y : Int) {i day : Nat} (some : 1 ≤ day)
    (h : day ≤ (monthLengths y).getD i 0) : i < 12 ∧ day ≤ 31 := by
  rw [List.getD_eq_getElem?_getD] at h
  cases found : (monthLengths y)[i]? with
  | none =>
    rw [found] at h
    exact absurd (Nat.le_trans some h) (by decide)
  | some length =>
    rw [found] at h
    obtain ⟨inside, -⟩ := List.getElem?_eq_some_iff.mp found
    have most : ∀ length ∈ monthLengths y, length ≤ 31 := by
      unfold monthLengths
      cases isLeap y <;> decide
    exact ⟨inside, Nat.le_trans h (most length (List.mem_of_getElem? found))⟩

/-! ## Days -/

/-- A date that exists has one of twelve months and a day up to the thirty-first. -/
theorem le_of_isValid {d : Date} (h : d.isValid = true) : d.month ≤ 12 ∧ d.day ≤ 31 := by
  unfold isValid at h
  rw [Bool.and_eq_true, Bool.and_eq_true] at h
  obtain ⟨⟨-, some⟩, inside⟩ := h
  have bounds := monthLengths_getD d.year (of_decide_eq_true some) (of_decide_eq_true inside)
  omega

theorem dayNumber_eq (d : Date) :
    d.dayNumber = yearStart d.year + ((monthLengths d.year).take (d.month - 1)).sum + d.day - 1 := by
  unfold dayNumber
  rw [List.sum_eq_foldl_nat]

theorem placeAmong_ofDayNumber (n : Int) :
    (n - yearStart (yearOfDay n)).toNat < (monthLengths (yearOfDay n)).sum := by
  have spec := yearOfDay_spec n
  rw [yearStart_succ] at spec
  rw [sum_monthLengths]
  omega

theorem isValid_ofDayNumber (n : Int) : (ofDayNumber n).isValid = true := by
  obtain ⟨inside, -⟩ := placeAmong_spec (placeAmong_ofDayNumber n)
  unfold isValid ofDayNumber
  rw [Bool.and_eq_true, Bool.and_eq_true]
  exact ⟨⟨decide_eq_true (Nat.succ_pos _), decide_eq_true (Nat.succ_pos _)⟩, decide_eq_true inside⟩

theorem dayNumber_ofDayNumber (n : Int) : (ofDayNumber n).dayNumber = n := by
  obtain ⟨-, total⟩ := placeAmong_spec (placeAmong_ofDayNumber n)
  have spec := yearOfDay_spec n
  rw [dayNumber_eq]
  simp only [ofDayNumber, Nat.add_sub_cancel]
  omega

end Circulation.Time.Date
