/- # Circulation.Time.Instant -- points in time

An instant is a number of seconds since 1970-01-01T00:00:00Z and a number of nanoseconds. The
nanoseconds may pass a full second only on the last second of a minute: that is a leap second,
written as second 60. The seconds lie in the years from -262143 to 262142, so every instant has a
date, and adding days to one can fail at the end of the last year and nowhere else.
-/
import Circulation.Decimal
import Circulation.Time.Calendar

namespace Circulation.Time

/-! ## The range -/

/-- The first second of the year -262143. -/
def earliest : Int := -8334601228800

/-- The last second of the year 262142. -/
def latest : Int := 8210266876799

theorem earliest_eq : earliest = Date.yearStart (-262143) * 86400 := by decide

theorem latest_eq : latest = Date.yearStart 262143 * 86400 - 1 := by decide

/-- The nanoseconds in a second. -/
def nanosPerSecond : Nat := 1000000000

/-- A point in time. -/
structure Instant where
  seconds : Int
  nanos : Nat
  inRange : earliest ≤ seconds ∧ seconds ≤ latest
  inSecond : nanos < nanosPerSecond ∨ (nanos < 2 * nanosPerSecond ∧ seconds % 60 = 59)
deriving DecidableEq

namespace Instant

/-- The instant with these seconds and nanoseconds, if there is one. -/
def ofUnix? (seconds : Int) (nanos : Nat) : Option Instant :=
  if inRange : earliest ≤ seconds ∧ seconds ≤ latest then
    if inSecond : nanos < nanosPerSecond ∨ (nanos < 2 * nanosPerSecond ∧ seconds % 60 = 59) then
      some ⟨seconds, nanos, inRange, inSecond⟩
    else none
  else none

theorem ofUnix?_self (t : Instant) : ofUnix? t.seconds t.nanos = some t := by
  rw [ofUnix?, dif_pos t.inRange, dif_pos t.inSecond]

/-- The beginning of the count. -/
def epoch : Instant := ⟨0, 0, by decide, by decide⟩

instance : Inhabited Instant := ⟨epoch⟩

/-- Whether the instant lies in a leap second. -/
def isLeap (t : Instant) : Bool := nanosPerSecond ≤ t.nanos

/-- The part of the second that is over, a leap second being a second of its own. -/
def fraction (t : Instant) : Nat := t.nanos % nanosPerSecond

/-! ## Periods of days -/

/-- The greatest length of a period, in seconds: it is counted in milliseconds of sixty-four
bits. -/
def longestPeriod : Int := 9223372036854775

/-- So many days, in seconds, if that is a period: the product is taken in sixty-four bits and may
not pass the greatest length. -/
def secondsOfDays? (days : Int) : Option Int :=
  let seconds := days * 86400
  if Fits64 seconds ∧ -longestPeriod ≤ seconds ∧ seconds ≤ longestPeriod then some seconds
  else none

/-- The instant a positive number of days later, at the same time of day. A leap second counts as
the second before it, with the same fraction. -/
def addDays? (t : Instant) (days : Int) : Option Instant :=
  (secondsOfDays? days).bind fun seconds => ofUnix? (t.seconds + seconds) t.fraction

/-! ## Date and time of day -/

/-- The date in coordinated universal time. -/
def date (t : Instant) : Date := Date.ofDayNumber (t.seconds / 86400)

/-- The seconds of the day that are over. -/
def secondOfDay (t : Instant) : Nat := (t.seconds % 86400).toNat

end Instant

end Circulation.Time
