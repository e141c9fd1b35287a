/- # Circulation.Time.Calendar -- days and dates

The Gregorian calendar without beginning or end. Days are counted from 1970-01-01, which is day 0.
`Date.dayNumber` and `Date.ofDayNumber` go between a date and its count; a year begins where the
year before it ends, and inside a year the lengths of the months decide.
-/

namespace Circulation.Time

/-- A date of the calendar. -/
structure Date where
  year : Int
  month : Nat
  day : Nat
deriving DecidableEq

namespace Date

/-! ## Years -/

/-- Every fourth year has a leap day, but of the centuries only every fourth. -/
def isLeap (y : Int) : Bool := y % 4 == 0 && (y % 100 != 0 || y % 400 == 0)

/-- The leap years before `y`, counted from a fixed one. -/
def leapsBefore (y : Int) : Int := (y - 1) / 4 - (y - 1) / 100 + (y - 1) / 400

/-- The number of the first day of a year. -/
def yearStart (y : Int) : Int := 365 * (y - 1970) + leapsBefore y - leapsBefore 1970

/-- The days of a year. -/
def yearLength (y : Int) : Nat := if isLeap y then 366 else 365

theorem yearStart_succ (y : Int) : yearStart (y + 1) = yearStart y + yearLength y := by
  have leap : isLeap y = true ↔ y % 4 = 0 ∧ (¬ y % 100 = 0 ∨ y % 400 = 0) := by simp [isLeap]
  unfold yearStart yearLength
  by_cases h : isLeap y
  · rw [if_pos h]
    rw [leap] at h
    unfold leapsBefore
    omega
  · rw [if_neg h]
    rw [leap] at h
    unfold leapsBefore
    omega

/-- The year that a day falls into. -/
def yearOfDay (n : Int) : Int :=
  let y := (400 * (n + 719528)) / 146097
  if n < yearStart y then y - 1 else if yearStart (y + 1) ≤ n then y + 1 else y

/-! ## Months -/

/-- The lengths of the months of a year. -/
def monthLengths (y : Int) : List Nat :=
  [31, if isLeap y then 29 else 28, 31, 30, 31, 30, 31, 31, 30, 31, 30, 31]

/-- The place of a day among months of given lengths: how many months are over, and the days
since. -/
def placeAmong : List Nat → Nat → Nat × Nat
  | [], n => (0, n)
  | length :: rest, n =>
    if n < length then (0, n) else
      let (months, days) := placeAmong rest (n - length)
      (months + 1, days)

/-! ## Days -/

/-- The month and the day exist. -/
def isValid (d : Date) : Bool :=
  1 ≤ d.month && 1 ≤ d.day && d.day ≤ (monthLengths d.year).getD (d.month - 1) 0

/-- The number of a date's day. -/
def dayNumber (d : Date) : Int :=
  let earlier : Nat := ((monthLengths d.year).take (d.month - 1)).foldl (· + ·) 0
  yearStart d.year + earlier + d.day - 1

/-- The date of a day. -/
def ofDayNumber (n : Int) : Date :=
  let y := yearOfDay n
  let (months, days) := placeAmong (monthLengths y) (n - yearStart y).toNat
  ⟨y, months + 1, days + 1⟩

end Date

end Circulation.Time
