/- # Circulation.Proofs.Store.Timed -- a desk whose clock is read from outside

The clock of a desk begins in 1970, knows no leap second and moves by a fixed step. A law about any
readings at all is a law of the timed desk: its books, loans, faults and events are those of a desk, and
the readings of its clock are given in advance, any instants in any order. A desk with its own clock
runs as the timed desk does that is given what this clock is going to show (`run_desk`).
-/
import Circulation.Proofs.Lending.Errand
import Circulation.Proofs.Store.Laws
import Circulation.Store.Desk

namespace Circulation

open Time (Instant)

/-- What a clock shows at one reading after the other. -/
def Clock.readings (c : Clock) (n : Nat) : Instant :=
  Clock.read { c with nanos := c.nanos + n * c.tick } |>.1

/-- A desk with the readings of the clock that are still to come; its own clock is not looked at. -/
structure Timed where
  desk : Desk
  readings : Nat → Instant

/-- A desk with its own clock, given in advance what the clock is going to show. -/
def Desk.timed (d : Desk) : Timed := ⟨d, d.clock.readings⟩

namespace Timed

/-- Answer a request: the clock by the next reading, the stores and the record of events as the desk
does. Whatever else is asked, the desk answers it and stays as it is. -/
def answer : Surroundings Timed
  | .readClock, t => (t.readings 0, { t with readings := fun n => t.readings (n + 1) })
  | .store c, t => ((Desk.answerStore c t.desk).1, { t with desk := (Desk.answerStore c t.desk).2 })
  | .record e, t => ((), { t with desk := { t.desk with events := t.desk.events ++ [e] } })
  | q, t => ((Desk.answer q t.desk).1, t)

/-- The timed desk with other books. -/
def setShelf (t : Timed) (shelf : Shelf) : Timed := { t with desk := { t.desk with shelf } }

/-- The timed desk with other loans. -/
def setLedger (t : Timed) (ledger : Ledger) : Timed := { t with desk := { t.desk with ledger } }

/-- The timed desk when a loan was settled; what was to happen to one settling only has happened. -/
def settle (t : Timed) (loan : Loan) (at_ : Instant) : Timed :=
  { t with desk :=
    { t.desk with
      ledger := t.desk.ledger.settle loan at_, faults := { t.desk.faults with loseNextReturn := false } } }

variable {α : Type}

/-! ## A desk with its own clock -/

theorem readings_read (c : Clock) : c.read.2.readings = fun n => c.readings (n + 1) := by
  funext n
  have shown : c.nanos + c.tick + n * c.tick = c.nanos + (n + 1 : Nat) * c.tick := by
    rw [Int.natCast_succ, Int.add_mul]
    omega
  simp only [Clock.readings, Clock.read, shown]

/-- A call to the stores does not look at the clock. -/
theorem answerStore_clock (q : StoreCall) (d : Desk) (c : Clock) :
    Desk.answerStore q { d with clock := c } =
      ((Desk.answerStore q d).1, { (Desk.answerStore q d).2 with clock := c }) := by
  cases q with
  | findBook id => cases flag : d.faults.failReads <;> simp [Desk.answerStore, flag]
  | saveBook b => cases flag : d.faults.failUpdates <;> simp [Desk.answerStore, flag]
  | createLoan draft => cases flag : d.faults.failCreates <;> simp [Desk.answerStore, flag]
  | _ => rfl

/-- A desk with its own clock is the timed desk that is given what the clock is going to show. -/
theorem run_desk (p : Procedure α) (d : Desk) (c : Clock) :
    let out := p.run answer ⟨d, c.readings⟩
    ∃ c' : Clock, out.2.readings = c'.readings ∧
      p.run Desk.answer { d with clock := c } = (out.1, { out.2.desk with clock := c' }) := by
  induction p generalizing d c with
  | done a => exact ⟨c, rfl, rfl⟩
  | ask q next ih =>
    cases q with
    | readClock =>
      have onward := ih (c.readings 0) d c.read.2
      rw [readings_read] at onward
      have first : c.readings 0 = c.read.1 := by simp [Clock.readings]
      simpa [Procedure.run, answer, Desk.answer, first] using onward
    | store call =>
      have onward := ih (Desk.answerStore call d).1 (Desk.answerStore call d).2 c
      simpa [Procedure.run, answer, Desk.answer, answerStore_clock] using onward
    | record e => exact ih () { d with events := d.events ++ [e] } c
    | _ => exact ih _ d c

/-! ## Calls to the stores -/

/-- A call gets the answer of the store, an error put in the caller's terms. -/
theorem run_call {c : StoreCall} {r : c.Answer} {wrap : StoreError → Failure} {t : Timed} {d : Desk}
    (answered : Desk.answerStore c t.desk = (r, d)) (k : Except Failure c.Result → Procedure α) :
    ((Attempt.ofAnswer wrap (.request (.store c))).run.andThen k).run answer t =
      (k (r.mapError wrap)).run answer { t with desk := d } := by
  show (((Procedure.done (Desk.answerStore c t.desk).1).andThen _).andThen k).run answer
    { t with desk := (Desk.answerStore c t.desk).2 } = _
  rw [answered]
  cases r <;> rfl

end Timed

end Circulation
