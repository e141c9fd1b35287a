/- # Circulation.Proofs.Lending.Permanence -- a failure for good stays

A call that fails for good fails the same way whenever it is made again, while only its own tries touch
the stores: faults may be gone by then and the clock may have moved on (`fails_again`). The checks that
such a failure can stand for are about the command and about what the stores hold, and neither changes.
The one that looks at the clock asks whether a loan would end inside the range; later it ends even less.
Checks that faults decide stand before it, where fewer faults only help (`Persists`). A try changes
nothing, so what holds of the second one holds of any number of them (`permanent_stays`).
-/
import Circulation.Proofs.Lending.Checks
import Circulation.Proofs.Lending.LifeCycle

namespace Circulation

open Time (Instant)

theorem Time.Instant.seconds_le_of_not_before {t u : Instant} (h : ¬u.Before t) :
    t.seconds ≤ u.seconds := by
  unfold Before at h
  omega

/-- Every fault that is switched on is switched on in the other. -/
structure Faults.Within (f g : Faults) : Prop where
  reads : f.failReads = true → g.failReads = true
  updates : f.failUpdates = true → g.failUpdates = true
  creates : f.failCreates = true → g.failCreates = true
  returns : f.loseNextReturn = true → g.loseNextReturn = true

theorem Faults.Within.refl (f : Faults) : f.Within f := ⟨id, id, id, id⟩

theorem Faults.none_within (f : Faults) : none.Within f := by
  constructor <;> simp [none]

namespace Lending

/-! ## Checks that persist -/

/-- In the checks of a call and those of the same call made again, the first that is not passed stands
for the same failure, provided this is a failure for good. -/
inductive Persists : List Check → List Check → Prop
  /-- The same check again. -/
  | same (check : Check) {checks checks' : List Check} : Persists checks checks' →
      Persists (check :: checks) (check :: checks')
  /-- A check that stands for a passing trouble, and is easier to pass. -/
  | eased {check check' : Check} {checks checks' : List Check} :
      check.failure.kind = .transient → (check.passes → check'.passes) → Persists checks checks' →
      Persists (check :: checks) (check' :: checks')
  /-- A check that is harder to pass, when all others stand for passing troubles. -/
  | last {check check' : Check} {checks checks' : List Check} :
      check'.failure = check.failure → (check'.passes → check.passes) →
      (∀ later ∈ checks, later.failure.kind = .transient) →
      Persists (check :: checks) (check' :: checks')
  /-- Checks that all stand for passing troubles. -/
  | past {checks checks' : List Check} :
      (∀ check ∈ checks, check.failure.kind = .transient) → Persists checks checks'

theorem Persists.firstFailing {checks checks' : List Check} (persists : Persists checks checks')
    {check : Check} (first : FirstFailing checks check) (permanent : check.failure.kind = .permanent) :
    ∃ check', FirstFailing checks' check' ∧ check'.failure = check.failure := by
  induction persists with
  | same check₀ _ ih =>
    rcases FirstFailing.cons_iff.mp first with ⟨fails, rfl⟩ | ⟨passes, later⟩
    · exact ⟨_, .head fails, rfl⟩
    · obtain ⟨check', first', same⟩ := ih later
      exact ⟨check', first'.tail passes, same⟩
  | eased transient easier _ ih =>
    rcases FirstFailing.cons_iff.mp first with ⟨-, rfl⟩ | ⟨passes, later⟩
    · rw [transient] at permanent
      cases permanent
    · obtain ⟨check', first', same⟩ := ih later
      exact ⟨check', first'.tail (easier passes), same⟩
  | last same harder transient =>
    rcases FirstFailing.cons_iff.mp first with ⟨fails, rfl⟩ | ⟨-, later⟩
    · exact ⟨_, .head (fails ∘ harder), same⟩
    · rw [transient _ later.mem] at permanent
      cases permanent
  | past transient =>
    rw [transient _ first.mem] at permanent
    cases permanent

/-- One more try of a call: the faults that are switched on by then, and what the clock shows. -/
structure Try where
  faults : Faults
  readings : Nat → Instant

/-- The desk that the try meets. -/
def Try.at_ (x : Try) (d : Desk) : Timed := ⟨{ d with faults := x.faults }, x.readings⟩

/-- A try that comes after a call: of the faults that the call met some may be gone, and the clock shows
nothing that is before what it showed then. -/
structure Try.After (x : Try) (t : Timed) : Prop where
  faults : x.faults.Within t.desk.faults
  clock : ∀ n, ¬(x.readings n).Before (t.readings 0)

theorem Try.After.works {x : Try} {t : Timed} (after : x.After t)
    (works : t.desk.faults.failReads = false) : x.faults.failReads = false := by
  cases reads : x.faults.failReads with
  | false => rfl
  | true => rw [after.faults.reads reads] at works; cases works

theorem lendChecks_persist (user : UserId) (book : BookId) (days : Option Int) {t : Timed} {x : Try}
    (after : x.After t) :
    Persists (lendChecks user book days t) (lendChecks user book days (x.at_ t.desk)) := by
  unfold lendChecks
  refine .eased rfl after.works (.same _ (.same _ (.same _ (.last rfl (fun within => ?_) ?_))))
  · have later := Time.Instant.seconds_le_of_not_before (after.clock 0)
    have within : (x.readings 0).seconds + resolveLoanDays days * 86400 ≤ Time.latest := within
    show (t.readings 0).seconds + resolveLoanDays days * 86400 ≤ Time.latest
    omega
  · simp [Failure.kind]

theorem settleChecks_persist (id : LoanId) (user : Option UserId) (t : Timed) (x : Try) :
    Persists (settleChecks id user t) (settleChecks id user (x.at_ t.desk)) := by
  unfold settleChecks
  apply Persists.same
  simp only [Try.at_]
  cases t.desk.ledger.find? id with
  | none => exact .past (by simp)
  | some loan =>
    have returns : ∀ check ∈ returnChecks loan t, check.failure.kind = .transient := by
      simp [returnChecks, Failure.kind]
    cases user with
    | none => exact .past returns
    | some user => exact .same _ (.past returns)

/-- Whatever check is made, the same one is made in a later try, and only trouble that may pass can be
another. -/
theorem Errand.checks_persist (e : Errand) {t : Timed} {x : Try} (after : x.After t) :
    Persists (e.checks t) (e.checks (x.at_ t.desk)) := by
  cases e with
  | borrow c =>
    refine .same _ (.same _ ?_)
    cases c.payload.userId with
    | none => exact .past (by simp)
    | some user =>
      cases c.payload.bookId with
      | none => exact .past (by simp)
      | some book => exact lendChecks_persist user book c.payload.days after
  | giveBack c =>
    refine .same _ ?_
    cases c.payload.loanId with
    | none => exact .past (by simp)
    | some id => exact settleChecks_persist id c.payload.userId t x

/-! ## Calls made again -/

/-- A call that fails for good leaves its desk as it was. -/
theorem Errand.desk_of_permanent (e : Errand) {t : Timed} {f : Failure}
    (failed : (e.callAt t).1 = .error f) (permanent : f.kind = .permanent) :
    (e.callAt t).2.desk = t.desk := by
  obtain ⟨check, first, rfl, leaves⟩ := e.stops_of_error failed
  refine leaves.unchanged (Bool.eq_false_iff.mpr fun passing => ?_)
  rw [(e.checks_sorted t _ first.mem).mpr passing] at permanent
  cases permanent

/-- A call that failed for good fails again, and the try leaves the desk as it was. -/
theorem Errand.fails_again (e : Errand) {t : Timed} {x : Try} (after : x.After t) {f : Failure}
    (failed : (e.callAt t).1 = .error f) (permanent : f.kind = .permanent) :
    (e.callAt (x.at_ t.desk)).1 = .error f ∧
      (e.callAt (x.at_ t.desk)).2.desk = { t.desk with faults := x.faults } := by
  obtain ⟨check, first, rfl⟩ := (e.follows t).error_iff.mp failed
  obtain ⟨check', first', same⟩ := (e.checks_persist after).firstFailing first permanent
  have again : (e.callAt (x.at_ t.desk)).1 = .error check.failure :=
    (e.follows _).error_iff.mpr ⟨check', first', same.symm⟩
  exact ⟨again, e.desk_of_permanent again permanent⟩

/-- A call that is tried again and again: the answers, and the desk in the end. -/
def Errand.again (e : Errand) : List Try → Desk → List (Except Failure Served) × Desk
  | [], d => ([], d)
  | x :: tries, d =>
    let (answer, t) := e.callAt (x.at_ d)
    let (answers, d') := e.again tries t.desk
    (answer :: answers, d')

/-- Books, loans and events are the same at both desks. -/
def Alike (d d' : Desk) : Prop := d'.shelf = d.shelf ∧ d'.ledger = d.ledger ∧ d'.events = d.events

/-- Tries of a call that failed for good all fail the same way, and only the faults of the desk are
others in the end. -/
theorem Errand.again_of_permanent (e : Errand) {t : Timed} {f : Failure}
    (failed : (e.callAt t).1 = .error f) (permanent : f.kind = .permanent) (tries : List Try)
    (after : ∀ x ∈ tries, x.After t) (faults : Faults) :
    ∃ faults', e.again tries { t.desk with faults } =
      (tries.map fun _ => .error f, { t.desk with faults := faults' }) := by
  induction tries generalizing faults with
  | nil => exact ⟨faults, rfl⟩
  | cons x tries ih =>
    obtain ⟨again, kept⟩ := e.fails_again (after x List.mem_cons_self) failed permanent
    obtain ⟨faults', onward⟩ := ih (fun y mem => after y (List.mem_cons_of_mem x mem)) x.faults
    refine ⟨faults', ?_⟩
    show ((e.callAt (x.at_ t.desk)).1 :: (e.again tries (e.callAt (x.at_ t.desk)).2.desk).1,
      (e.again tries (e.callAt (x.at_ t.desk)).2.desk).2) = _
    rw [again, kept, onward]
    rfl

/-- Whatever the command, the stores and the faults: a call that fails for good fails with the same
failure, all that it says included, at every later try, however many there are, whichever faults are
gone by then and however late it is. Neither the call nor any of its tries changes a book or a loan or
records an event. -/
theorem permanent_stays (e : Errand) (t : Timed) {f : Failure} (failed : (e.callAt t).1 = .error f)
    (permanent : f.kind = .permanent) (tries : List Try) (after : ∀ x ∈ tries, x.After t) :
    Alike t.desk (e.callAt t).2.desk ∧
      (e.again tries (e.callAt t).2.desk).1 = tries.map (fun _ => .error f) ∧
      Alike t.desk (e.again tries (e.callAt t).2.desk).2 := by
  rw [e.desk_of_permanent failed permanent]
  obtain ⟨faults', same⟩ := e.again_of_permanent failed permanent tries after t.desk.faults
  have answers : e.again tries t.desk = _ := same
  rw [answers]
  exact ⟨⟨rfl, rfl, rfl⟩, rfl, rfl, rfl, rfl⟩

/-- A desk with one copy of a book, where nothing can be written; the clock stands in a leap second. -/
def unwritable : Timed where
  desk :=
    { shelf := Register.empty.put ⟨⟨1⟩, "Emma", 1, 1⟩
      ledger := .empty
      faults := { Faults.none with failUpdates := true, failCreates := true }
      clock := ⟨0, 0⟩
      events := [] }
  readings := fun _ => .leapSecond 500000000

/-- To borrow that book for more days than there are. -/
def borrowForEver : Command := ⟨.borrow, "b-1", none, ⟨some ⟨7⟩, some ⟨1⟩, some 100000000000000, none⟩⟩

/-- The loan does not end inside the range, in the leap second and in the next second when
everything works. -/
theorem permanent_stays_unwritable :
    let e := Errand.borrow borrowForEver
    let tries := [⟨unwritable.desk.faults, unwritable.readings⟩, ⟨.none, fun _ => .afterLeapSecond⟩]
    (e.again tries (e.callAt unwritable).2.desk).1 =
      tries.map fun _ => .error (.invalidLoanDuration 100000000000000) := by
  intro e tries
  let now := Instant.leapSecond 500000000
  have same : ¬now.Before now := by simp [Time.Instant.Before]
  have later : ¬Instant.afterLeapSecond.Before now := by
    simp [Time.Instant.Before, now, Instant.afterLeapSecond, Instant.leapSecond]
  have after : ∀ x ∈ tries, x.After unwritable := by
    simp only [tries, List.forall_mem_cons]
    exact ⟨⟨.refl _, fun _ => same⟩, ⟨Faults.none_within _, fun _ => later⟩, by simp⟩
  exact (permanent_stays e unwritable (by rfl) rfl tries after).2.1

end Lending

end Circulation
