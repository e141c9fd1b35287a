/- # Circulation.Proofs.Lending.DueDate -- when a loan is due

Instants lie on a line of nanoseconds, on which a leap second falls together with the second before it
(`reckoning`). A loan is opened if so many days after the present the line has not passed the last
instant, and it is due just then; if it has, the loan is refused with the days that were counted. The
two limits that the sum could meet, that of periods and that of dates, never decide differently, and a
clock that adds in machine words, as `Instant.addDaysInWords?` does, comes to the same instant, whatever
the number of days (`dueDate_exact`).
-/
import Circulation.Loan
import Circulation.Proofs.Time.Word

namespace Circulation

open Time (Instant nanosPerSecond latest)

/-! ## The line of nanoseconds -/

namespace Time.Instant

/-- The nanoseconds since 1970, a leap second being counted as the second before it. -/
def reckoning (t : Instant) : Int := t.seconds * nanosPerSecond + t.fraction

/-- The nanoseconds of a day. -/
def nanosPerDay : Int := 86400 * nanosPerSecond

/-- The end of the last second. -/
def last : Instant := ⟨latest, 999999999, by decide, by decide⟩

theorem toText_last : last.toText = "+262142-12-31T23:59:59.999999999Z" := by decide +kernel

/-- Of instants that are so many seconds apart in time and alike in their fractions, the reckonings are
so many seconds apart. -/
theorem reckoning_of_later {t u : Instant} {period : Int} (later : u.seconds = t.seconds + period)
    (same : u.nanos = t.fraction) : u.reckoning = t.reckoning + period * nanosPerSecond := by
  have part : u.fraction = t.fraction := by
    unfold fraction at same ⊢
    rw [same, Nat.mod_mod]
  unfold reckoning
  rw [later, part, Int.add_mul]
  omega

/-- A fraction does not reach the next second, so the last second decides. -/
theorem reckoning_le_last_iff {t : Instant} {days : Int} :
    t.reckoning + days * nanosPerDay ≤ last.reckoning ↔ t.seconds + days * 86400 ≤ latest := by
  have part := t.fraction_lt
  unfold reckoning nanosPerDay
  show t.seconds * 1000000000 + t.fraction + days * (86400 * 1000000000) ≤
    8210266876799 * 1000000000 + 999999999 ↔ t.seconds + days * 86400 ≤ 8210266876799
  change t.fraction < 1000000000 at part
  omega

/-- Whole days on, the time of day is the same. -/
theorem secondOfDay_of_later {t u : Instant} {days : Int} (later : u.seconds = t.seconds + days * 86400) :
    u.secondOfDay = t.secondOfDay := by
  unfold secondOfDay
  rw [later, Int.add_mul_emod_self_right]

/-- Whole days on, the date is so many days on. -/
theorem date_of_later {t u : Instant} {days : Int} (later : u.seconds = t.seconds + days * 86400) :
    u.date = Date.ofDayNumber (t.seconds / 86400 + days) := by
  unfold date
  rw [later, Int.add_mul_ediv_right _ _ (by decide)]

end Time.Instant

/-! ## Opening a loan -/

namespace LoanDraft

/-- Which days are counted: those that were asked for if they are positive, and seven otherwise. -/
def countedDays : Option Int64 → Int64
  | some days => if 0 < days then days else 7
  | none => 7

theorem resolveLoanDays_toInt (days : Option Int64) :
    resolveLoanDays (days.map Int64.toInt) = (countedDays days).toInt := by
  cases days with
  | none => rfl
  | some days =>
    simp only [Option.map_some, resolveLoanDays, countedDays, Int64.lt_iff_toInt_lt]
    show (if 0 < days.toInt then days.toInt else 7) = (if 0 < days.toInt then days else 7).toInt
    split <;> rfl

/-- Whatever the present instant, a leap second or one at the end of the range included, and whatever
number of sixty-four bits is asked for: if so many days on the last instant is not passed, the loan
begins at the present instant as it is, and is due exactly so many days later, at the same time of day
with the same fraction; if it is passed, the loan is refused with the days that were counted. The sum
that dates the loan is the one that words which wrap around come to. -/
theorem dueDate_exact (user : UserId) (book : BookId) (days : Option Int64) (now : Instant) :
    let counted := countedDays days
    let due := now.reckoning + counted.toInt * Instant.nanosPerDay
    let opened := LoanDraft.open? user book (days.map Int64.toInt) now
    ((due ≤ Instant.last.reckoning ∧ ∃ later : Instant, opened = .ok ⟨user, book, now, later⟩ ∧
        later.reckoning = due ∧ later.isLeap = false ∧ later.fraction = now.fraction ∧
        later.secondOfDay = now.secondOfDay ∧
        later.date = Time.Date.ofDayNumber (now.seconds / 86400 + counted.toInt)) ∨
      (Instant.last.reckoning < due ∧ opened = .error ⟨counted.toInt⟩)) ∧
    Instant.last.toText = "+262142-12-31T23:59:59.999999999Z" ∧
    now.addDaysInWords? counted = now.addDays? counted.toInt := by
  intro counted due opened
  have asked : resolveLoanDays (days.map Int64.toInt) = counted.toInt := resolveLoanDays_toInt days
  have positive : 0 < counted.toInt := asked ▸ resolveLoanDays_pos _
  refine ⟨?_, Instant.toText_last, now.addDaysInWords?_eq positive⟩
  by_cases within : now.seconds + counted.toInt * 86400 ≤ latest
  · left
    obtain ⟨later, sum, seconds, nanos⟩ := Instant.exists_addDays? positive within
    have part : later.nanos < nanosPerSecond := nanos ▸ now.fraction_lt
    refine ⟨Instant.reckoning_le_last_iff.mpr within, later, ?_, ?_, ?_, ?_,
      Instant.secondOfDay_of_later seconds, Instant.date_of_later seconds⟩
    · show LoanDraft.open? user book (days.map Int64.toInt) now = _
      simp only [LoanDraft.open?, asked, sum]
    · show _ = now.reckoning + counted.toInt * (86400 * nanosPerSecond)
      rw [Instant.reckoning_of_later seconds nanos, Int.mul_assoc]
    · exact decide_eq_false (Nat.not_le.mpr part)
    · rw [Instant.fraction, Nat.mod_eq_of_lt part, nanos]
  · right
    have beyond : latest < now.seconds + counted.toInt * 86400 := Int.not_le.mp within
    refine ⟨Int.not_le.mp fun before => within (Instant.reckoning_le_last_iff.mp before), ?_⟩
    show LoanDraft.open? user book (days.map Int64.toInt) now = _
    simp only [LoanDraft.open?, asked, Instant.addDays?_eq_none_of_lt beyond]

end LoanDraft

end Circulation
