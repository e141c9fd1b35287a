/- # Circulation.Lending.Basic -- steps that borrowing and returning share

The calls to the stores as attempts, with a store's error put as a failure of the command, and the
section between passing the gate and leaving it. The gate is left whatever the section comes to.
-/
import Circulation.Procedure

namespace Circulation.Lending

open Time (Instant)

/-! ## Calls to the stores -/

/-- The book under a number, if there is one. -/
def findBook (id : BookId) : Attempt Failure (Option Book) :=
  .ofAnswer .bookStore (.request (.store (.findBook id)))

/-- Write a book back. It must still be there. -/
def saveBook (b : Book) : Attempt Failure Unit := do
  let saved ← Attempt.ofAnswer .bookStore (.request (.store (.saveBook b)))
  if saved then return else throw (.inventoryUpdateRejected b.id)

/-- The loan under a number, if there is one. -/
def findLoan (id : LoanId) : Attempt Failure (Option Loan) :=
  .ofAnswer .loanStore (.request (.store (.findLoan id)))

/-- Store a draft as a loan. -/
def createLoan (d : LoanDraft) : Attempt Failure Loan :=
  .ofAnswer .loanStore (.request (.store (.createLoan d)))

/-- Settle a loan if it is still borrowed; the answer says whether it was. -/
def markReturned (id : LoanId) (user : UserId) (at_ : Instant) : Attempt Failure Bool :=
  .ofAnswer .loanStore (.request (.store (.markReturned id user at_)))

/-- Is this book out to this user? -/
def hasActiveLoan (user : UserId) (book : BookId) : Attempt Failure Bool :=
  .ofAnswer .loanStore (.request (.store (.hasActiveLoan user book)))

/-! ## Gate, clock and log -/

/-- A section that only one procedure at a time is in. -/
def guarded {α : Type} (section_ : Attempt Failure α) : Attempt Failure α :=
  ExceptT.mk do
    Procedure.request .enterGate
    let result ← section_.run
    Procedure.request .leaveGate
    return result

/-- The present instant. -/
def readClock : Attempt Failure Instant := ExceptT.lift Procedure.readClock

/-- Give a notice. -/
def note (n : Notice) : Attempt Failure Unit := ExceptT.lift (Procedure.note n)

/-- An attempt with a notice about its failure. -/
def noting {α : Type} (notice : Failure → Notice) (attempt : Attempt Failure α) :
    Attempt Failure α :=
  ExceptT.mk do
    match ← attempt.run with
    | .ok a => return .ok a
    | .error f => do
      Procedure.note (notice f)
      return .error f

/-- Where events go. Emitting never fails. -/
abbrev EventSink := Event → Procedure Unit

/-- The sink that keeps a record of the events. -/
def recordingSink : EventSink := fun e => Procedure.request (.record e)

end Circulation.Lending
