/- # Circulation.Proofs.Time.Period -- an instant some days later

A number of seconds and a number of nanoseconds are an instant or they are not, and an instant says
which ones they are (`eq_of_ofUnix?`). A positive number of days can be added to an instant as long as
the last second of the range is not passed, and the sum is then exact: so many days of seconds on, with
the same fraction (`exists_addDays?`, `addDays?_eq_none_of_lt`). Two limits could refuse a sum, that of
periods and that of instants, but what leads from one instant to another is always short enough for a
period.

At the end stand instants around a leap second, for those who have to show what becomes of one.
-/
import Circulation.Time.Instant

namespace Circulation.Time.Instant

theorem eq_of_ofUnix? {seconds : Int} {nanos : Nat} {t : Instant}
    (h : ofUnix? seconds nanos = some t) : t.seconds = seconds ∧ t.nanos = nanos := by
  unfold ofUnix? at h
  split at h
  · split at h
    · cases h
      exact ⟨rfl, rfl⟩
    · cases h
  · cases h

/-- Inside the range a fraction of a second always goes with a second. -/
theorem exists_ofUnix? {seconds : Int} {nanos : Nat} (inRange : earliest ≤ seconds ∧ seconds ≤ latest)
    (part : nanos < nanosPerSecond) : ∃ t, ofUnix? seconds nanos = some t := by
  unfold ofUnix?
  rw [dif_pos inRange, dif_pos (.inl part)]
  exact ⟨_, rfl⟩

theorem fraction_lt (t : Instant) : t.fraction < nanosPerSecond := Nat.mod_lt _ (by decide)

theorem eq_of_secondsOfDays? {days seconds : Int} (h : secondsOfDays? days = some seconds) :
    seconds = days * 86400 := by
  simp only [secondsOfDays?] at h
  split at h
  · exact (Option.some.inj h).symm
  · cases h

/-- What leads from one instant to a later one is a period. -/
theorem secondsOfDays?_of_le {t : Instant} {days : Int} (positive : 0 < days)
    (within : t.seconds + days * 86400 ≤ latest) : secondsOfDays? days = some (days * 86400) := by
  have least : -8334601228800 ≤ t.seconds := t.inRange.1
  have within : t.seconds + days * 86400 ≤ 8210266876799 := within
  unfold secondsOfDays?
  apply if_pos
  unfold Fits64 longestPeriod
  omega

/-- As long as the range is not left, there is an instant so many days later. -/
theorem exists_addDays? {t : Instant} {days : Int} (positive : 0 < days)
    (within : t.seconds + days * 86400 ≤ latest) :
    ∃ u, t.addDays? days = some u ∧ u.seconds = t.seconds + days * 86400 ∧ u.nanos = t.fraction := by
  have inRange : earliest ≤ t.seconds + days * 86400 ∧ t.seconds + days * 86400 ≤ latest := by
    have := t.inRange.1
    omega
  obtain ⟨u, there⟩ := exists_ofUnix? inRange t.fraction_lt
  refine ⟨u, ?_, eq_of_ofUnix? there⟩
  simp only [addDays?, secondsOfDays?_of_le positive within, Option.bind_some, there]

theorem addDays?_eq_none_of_lt {t : Instant} {days : Int}
    (beyond : latest < t.seconds + days * 86400) : t.addDays? days = none := by
  unfold addDays?
  rw [Option.bind_eq_none_iff]
  intro seconds period
  have length := eq_of_secondsOfDays? period
  unfold ofUnix?
  apply dif_neg
  omega

/-! ## Around a leap second -/

/-- So many nanoseconds into the leap second that ended June 2015. -/
def leapSecond (part : Fin 1000000000) : Instant :=
  ⟨1435708799, 1000000000 + part, by decide, .inr ⟨by unfold nanosPerSecond; omega, by decide⟩⟩

/-- The second after it. -/
def afterLeapSecond : Instant := ⟨1435708800, 0, by decide, by decide⟩

end Circulation.Time.Instant
