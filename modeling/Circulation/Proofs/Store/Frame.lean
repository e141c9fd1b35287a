/- # Circulation.Proofs.Store.Frame -- what an answer leaves alone

A call to the stores changes the books, the loans, or the one fault that is for one settling only. It
leaves the clock and the events as they are (`answerStore_frame`). Everything else that can be asked
leaves the stores alone.

The record of events only grows, and no answer depends on it. So a procedure can be run at the desk
without its record, the silent desk, and what it records there is what it adds to the record
(`run_eq_silent`). While the clock stands still a public procedure comes to the same result at any
time, records the same events and changes nothing else (`run_public`).
-/
import Circulation.Proofs.Pool.Orderly
import Circulation.Store.Desk

namespace Circulation

/-! ## Stores, faults, clock and events -/

/-- The two stores of a desk. -/
structure Stores where
  shelf : Shelf
  ledger : Ledger

/-- The stores of a desk. -/
def Desk.stores (d : Desk) : Stores := ⟨d.shelf, d.ledger⟩

namespace Desk

/-- A call to the stores leaves the clock and the events alone, and of the faults it uses up at most
the one that is for one settling only. -/
theorem answerStore_frame (c : StoreCall) (d : Desk) :
    (answerStore c d).2.clock = d.clock ∧ (answerStore c d).2.events = d.events ∧
      ((answerStore c d).2.faults = d.faults ∨
        (answerStore c d).2.faults = { d.faults with loseNextReturn := false }) := by
  cases c with
  | findBook id => cases flag : d.faults.failReads <;> simp [answerStore, flag]
  | saveBook b => cases flag : d.faults.failUpdates <;> simp [answerStore, flag]
  | createLoan draft => cases flag : d.faults.failCreates <;> simp [answerStore, flag]
  | markReturned id user at_ => exact ⟨rfl, rfl, .inr rfl⟩
  | findLoan id => exact ⟨rfl, rfl, .inl rfl⟩
  | hasActiveLoan user book => exact ⟨rfl, rfl, .inl rfl⟩

/-- Outside the gate nothing changes the stores. -/
theorem stores_answer {q : Request} (h : q.isPublic = true) (d : Desk) :
    (Desk.answer q d).2.stores = d.stores := by
  cases q <;> first | rfl | exact absurd h Bool.false_ne_true

theorem faults_answer (q : Request) (d : Desk) :
    (Desk.answer q d).2.faults = d.faults ∨
      (Desk.answer q d).2.faults = { d.faults with loseNextReturn := false } := by
  cases q with
  | store c => exact (answerStore_frame c d).2.2
  | _ => exact .inl rfl

/-- Behind the gate no event is recorded. -/
theorem events_answer {q : Request} (inner : q.isInner = true) (d : Desk) :
    (Desk.answer q d).2.events = d.events := by
  cases q with
  | store c => exact (answerStore_frame c d).2.1
  | readClock => rfl
  | note => rfl
  | _ => exact absurd inner Bool.false_ne_true

end Desk

/-- A clock that stands still is the same after a reading. -/
theorem Clock.read_of_still {c : Clock} (still : c.tick = 0) : c.read.2 = c := by
  show { c with nanos := c.nanos + c.tick } = c
  rw [still, Int.add_zero, ← still]

/-- While it stands still, no answer moves the clock. -/
theorem Desk.clock_answer (q : Request) {d : Desk} (still : d.clock.tick = 0) :
    (Desk.answer q d).2.clock = d.clock := by
  cases q with
  | readClock => exact Clock.read_of_still still
  | store c => exact (Desk.answerStore_frame c d).1
  | _ => rfl

/-! ## The silent desk -/

namespace Desk

variable {α : Type}

/-- The desk without its record of events. -/
def silent (d : Desk) : Desk := { d with events := [] }

/-- The desk with events before those in its record. -/
def after (events : List Event) (d : Desk) : Desk := { d with events := events ++ d.events }

theorem after_silent (d : Desk) : d.silent.after d.events = d := by
  show { d with events := d.events ++ [] } = d
  rw [List.append_nil]

theorem after_after (events events' : List Event) (d : Desk) :
    (d.after events').after events = d.after (events ++ events') := by
  simp only [after, List.append_assoc]

theorem answerStore_eq_silent (c : StoreCall) (d : Desk) :
    answerStore c d =
      ((answerStore c d.silent).1, (answerStore c d.silent).2.after d.events) := by
  cases c with
  | findBook id =>
    have alone := d.after_silent.symm
    cases flag : d.faults.failReads <;> simp only [answerStore, silent, flag] <;>
      exact Prod.ext rfl alone
  | saveBook b =>
    have alone := d.after_silent.symm
    cases flag : d.faults.failUpdates with
    | true =>
      simp only [answerStore, silent, flag]
      exact Prod.ext rfl alone
    | false => simp [answerStore, silent, after, flag]
  | createLoan draft =>
    have alone := d.after_silent.symm
    cases flag : d.faults.failCreates with
    | true =>
      simp only [answerStore, silent, flag]
      exact Prod.ext rfl alone
    | false => simp [answerStore, silent, after, flag]
  | markReturned id user at_ => simp only [answerStore, silent, after, List.append_nil]
  | findLoan id => exact Prod.ext rfl d.after_silent.symm
  | hasActiveLoan user book => exact Prod.ext rfl d.after_silent.symm

theorem answer_eq_silent (q : Request) (d : Desk) :
    Desk.answer q d = ((Desk.answer q d.silent).1, (Desk.answer q d.silent).2.after d.events) := by
  cases q with
  | record e => rfl
  | store c => exact answerStore_eq_silent c d
  | readClock => simp only [Desk.answer, silent, after, List.append_nil]
  | _ => exact Prod.ext rfl d.after_silent.symm

/-- Run at the silent desk, a procedure comes to the same result and adds the same events. -/
theorem run_eq_silent (p : Procedure α) (d : Desk) :
    p.run Desk.answer d =
      ((p.run Desk.answer d.silent).1, (p.run Desk.answer d.silent).2.after d.events) := by
  induction p generalizing d with
  | done a => exact Prod.ext rfl d.after_silent.symm
  | ask q next ih =>
    let found := Desk.answer q d.silent
    have stepped : (Procedure.ask q next).run Desk.answer d.silent = (next found.1).run Desk.answer found.2 :=
      rfl
    have split : Desk.answer q d = (found.1, found.2.after d.events) := answer_eq_silent q d
    calc (Procedure.ask q next).run Desk.answer d
        = (next found.1).run Desk.answer (found.2.after d.events) := by
          rw [Procedure.run, split]
      _ = (((next found.1).run Desk.answer found.2.silent).1,
            ((next found.1).run Desk.answer found.2.silent).2.after (d.events ++ found.2.events)) :=
          ih found.1 (found.2.after d.events)
      _ = _ := by
          rw [stepped, ih found.1 found.2, after_after]

/-- While the clock stands still, a public request always gets the same answer and only adds events,
always the same. -/
theorem answer_public {q : Request} (free : q.isPublic = true) (clock : Clock)
    (still : clock.tick = 0) :
    ∃ a events, ∀ d : Desk, d.clock = clock →
      Desk.answer q d = (a, { d with events := d.events ++ events }) := by
  -- It is answered as at any desk with this clock.
  refine ⟨(Desk.answer q { (default : Desk) with clock }).1, ?_⟩
  cases q with
  | enterGate => exact absurd free Bool.false_ne_true
  | leaveGate => exact absurd free Bool.false_ne_true
  | store c => exact absurd free Bool.false_ne_true
  | record e => exact ⟨[e], fun d _ => rfl⟩
  | readClock =>
    refine ⟨[], fun d same => ?_⟩
    subst same
    rw [List.append_nil]
    exact congrArg (fun c => (d.clock.read.1, { d with clock := c })) (Clock.read_of_still still)
  | _ =>
    refine ⟨[], fun d _ => ?_⟩
    rw [List.append_nil]
    rfl

/-- While the clock stands still, a public procedure always comes to the same and only adds events,
always the same. -/
theorem run_public {p : Procedure α} (h : p.Public) (clock : Clock) (still : clock.tick = 0) :
    ∃ a events, ∀ d : Desk, d.clock = clock →
      p.run Desk.answer d = (a, { d with events := d.events ++ events }) := by
  induction h with
  | done a =>
    refine ⟨a, [], fun d _ => ?_⟩
    rw [List.append_nil]
    rfl
  | @ask q next free _ ih =>
    -- The answer does not depend on the desk, so neither does the procedure that comes after it.
    obtain ⟨answer, first, asked⟩ := answer_public free clock still
    obtain ⟨a, later, rest⟩ := ih answer
    refine ⟨a, first ++ later, fun d same => ?_⟩
    rw [Procedure.run, asked d same]
    have onward := rest { d with events := d.events ++ first } same
    rw [List.append_assoc] at onward
    exact onward

end Desk

end Circulation
