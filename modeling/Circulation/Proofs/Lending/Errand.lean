/- # Circulation.Proofs.Lending.Errand -- a call as what is before, behind and after the gate

A call carries out a command as one to borrow or as one to return. If the command lacks what the
call needs, the call fails at once. Otherwise it passes the gate, and behind the gate it comes to a
verdict; then it leaves the gate, and everything after that is settled by the verdict: the event, the
notice and the answer. `Errand.procedure_eq` says so, and the rest of the theory looks at sections and
verdicts instead of procedures.
-/
import Circulation.Lending.Borrow
import Circulation.Lending.GiveBack

namespace Circulation

open Time (Instant)

/-! ## Attempts in sequence -/

namespace Attempt

variable {ε α β γ : Type}

theorem run_bind_andThen (x : Attempt ε α) (f : α → Attempt ε β)
    (k : Except ε β → Procedure γ) :
    (x >>= f).run.andThen k = x.run.andThen fun r =>
      match r with
      | .ok a => (f a).run.andThen k
      | .error e => k (.error e) := by
  show (x.run.andThen (ExceptT.bindCont f)).andThen k = _
  rw [Procedure.andThen_assoc]
  congr
  funext r
  cases r <;> rfl

theorem run_need_andThen (e : ε) (o : Option α) (k : Except ε α → Procedure γ) :
    (need e o).run.andThen k =
      match o with
      | some a => k (.ok a)
      | none => k (.error e) := by
  cases o <;> rfl

theorem run_ofExcept_andThen {δ : Type} (wrap : δ → ε) (r : Except δ α)
    (k : Except ε α → Procedure γ) :
    (ofExcept wrap r).run.andThen k =
      match r with
      | .ok a => k (.ok a)
      | .error e => k (.error (wrap e)) := by
  cases r <;> rfl

theorem run_lift_andThen (p : Procedure α) (k : Except ε α → Procedure γ) :
    (ExceptT.lift p : Attempt ε α).run.andThen k = p.andThen fun a => k (.ok a) := by
  show (p.andThen fun a => .done (.ok a)).andThen k = _
  rw [Procedure.andThen_assoc]
  rfl

end Attempt

namespace Lending

theorem run_guarded_andThen {α β : Type} (s : Attempt Failure α)
    (k : Except Failure α → Procedure β) :
    (guarded s).run.andThen k =
      .ask .enterGate fun _ => s.run.andThen fun r => .ask .leaveGate fun _ => k r := by
  show Procedure.ask .enterGate (fun _ =>
    (s.run.andThen fun r => .ask .leaveGate fun _ => .done r).andThen k) = _
  simp only [Procedure.andThen_assoc, Procedure.ask_andThen, Procedure.done_andThen]

theorem run_noting_andThen {α β : Type} (notice : Failure → Notice) (x : Attempt Failure α)
    (k : Except Failure α → Procedure β) :
    (noting notice x).run.andThen k = x.run.andThen fun r =>
      match r with
      | .ok a => k (.ok a)
      | .error f => .ask (.note (notice f) none) fun _ => k (.error f) := by
  show (x.run.andThen _).andThen k = _
  rw [Procedure.andThen_assoc]
  congr
  funext r
  cases r <;> rfl

/-! ## Calls and verdicts -/

/-- A command carried out as one to borrow or as one to return, whatever its kind. -/
inductive Errand where
  | borrow (c : Command)
  | giveBack (c : Command)

/-- What a call answers if it does not fail. -/
inductive Served where
  | lent (loan : Loan)
  | givenBack (outcome : ReturnOutcome)
deriving DecidableEq

/-- What the section behind the gate comes to. -/
inductive Verdict where
  | failed (f : Failure)
  /-- A new loan, and the book as its stock was written. -/
  | lent (loan : Loan) (taken : Book)
  | settledBefore (loan : Loan)
  /-- The loan as it was settled, and the copies on the shelf if the book is in the catalogue. -/
  | returned (loan : Loan) (remaining : Option Int)
deriving DecidableEq

namespace Verdict

def ofLend : Except Failure (Loan × Book) → Verdict
  | .ok (loan, taken) => .lent loan taken
  | .error f => .failed f

def ofSettle : Except Failure (ReturnOutcome × Option Int) → Verdict
  | .ok (.alreadySettled loan, _) => .settledBefore loan
  | .ok (.returned loan, remaining) => .returned loan remaining
  | .error f => .failed f

/-- The answer of the call. -/
def answer : Verdict → Except Failure Served
  | failed f => .error f
  | lent loan _ => .ok (.lent loan)
  | settledBefore loan => .ok (.givenBack (.alreadySettled loan))
  | returned loan _ => .ok (.givenBack (.returned loan))

/-- The event and the notice that follow, if a loan was made or settled. -/
def news : Verdict → Option ((Instant → Event) × Notice)
  | lent loan taken =>
    some (.requested loan taken.availableCopies, .loanCreated loan taken.availableCopies)
  | returned loan remaining => some (.returned loan remaining, .loanReturned loan remaining)
  | failed _ | settledBefore _ => none

/-- What is done after the gate is left. -/
def epilogue (emit : EventSink) (v : Verdict) : Procedure (Except Failure Served) :=
  match v.news with
  | none => .done v.answer
  | some (event, notice) =>
    .ask .readClock fun now => (emit (event now)).andThen fun _ =>
      .ask (.note notice none) fun _ => .done v.answer

end Verdict

namespace Errand

/-- The call as a procedure. -/
def procedure (emit : EventSink) : Errand → Procedure (Except Failure Served)
  | borrow c => (Lending.borrow emit c).run.andThen fun r => .done (r.map .lent)
  | giveBack c => (Lending.giveBack emit c).run.andThen fun r => .done (r.map .givenBack)

/-- The section behind the gate, if the command has what the call needs. -/
def section? : Errand → Except Failure (Procedure Verdict)
  | borrow c =>
    match c.payload.userId, c.payload.bookId with
    | none, _ => .error .missingUserId
    | some _, none => .error .missingBookId
    | some user, some book =>
      .ok ((lend user book c.payload.days).run.andThen fun r => .done (.ofLend r))
  | giveBack c =>
    match c.payload.loanId with
    | none => .error .missingLoanId
    | some id => .ok ((settle id c.payload.userId).run.andThen fun r => .done (.ofSettle r))

/-- A section and what comes after it. -/
def behindGate (emit : EventSink) (p : Procedure Verdict) : Procedure (Except Failure Served) :=
  p.andThen fun v => .ask .leaveGate fun _ => v.epilogue emit

/-- A call fails at once, or it is its section behind the gate. -/
theorem procedure_eq (emit : EventSink) (e : Errand) :
    e.procedure emit =
      match e.section? with
      | .error f => .done (.error f)
      | .ok p => .ask .enterGate fun _ => behindGate emit p := by
  cases e with
  | borrow c =>
    simp only [procedure, Lending.borrow, Attempt.run_bind_andThen, Attempt.run_need_andThen,
      run_guarded_andThen, section?]
    cases c.payload.userId with
    | none => rfl
    | some user =>
      cases c.payload.bookId with
      | none => rfl
      | some book =>
        simp only [behindGate, Procedure.andThen_assoc]
        congr 1
        funext _
        congr 1
        funext r
        rcases r with f | ⟨loan, taken⟩
        · rfl
        · simp only [readClock, note, Attempt.run_lift_andThen]
          rfl
  | giveBack c =>
    simp only [procedure, Lending.giveBack, Attempt.run_bind_andThen, Attempt.run_need_andThen,
      run_guarded_andThen, section?]
    cases c.payload.loanId with
    | none => rfl
    | some id =>
      simp only [behindGate, Procedure.andThen_assoc]
      congr 1
      funext _
      congr 1
      funext r
      rcases r with f | ⟨loan | loan, remaining⟩
      · rfl
      · simp only [Attempt.run_bind_andThen, readClock, note, Attempt.run_lift_andThen]
        rfl
      · rfl

end Errand

end Lending

end Circulation
