/- # Circulation.Lending.GiveBack -- taking a book back

A loan is settled once. If the command names a user it must be the loan's; a loan that is not
borrowed any more is left alone, and the command counts as carried out. Settling is conditional on
the loan still being borrowed when it is written. The copy goes back to the shelf unless the book
has left the catalogue or all its copies are there.
-/
import Circulation.Command
import Circulation.Lending.Basic

namespace Circulation.Lending

/-- What a command to return came to. -/
inductive ReturnOutcome where
  /-- The loan was settled now. -/
  | returned (loan : Loan)
  /-- The loan had been settled before. -/
  | alreadySettled (loan : Loan)
deriving DecidableEq

/-- Put a copy back on the shelf; the copies there afterwards, if the book is in the catalogue. -/
def restock (book : BookId) : Attempt Failure (Option Int) := do
  match ← findBook book with
  | none =>
    note (.returnedBookGone book)
    return none
  | some found =>
    match found.restockCopy with
    | .ok restocked =>
      saveBook restocked
      return some restocked.availableCopies
    | .error _ =>
      note (.bookFullyStocked book found.totalCopies)
      return some found.availableCopies

/-- A user that the command names must be the owner of the loan that it names. -/
def checkOwner (id : LoanId) (loan : Loan) : Option UserId → Attempt Failure Unit
  | none => return
  | some user =>
    if user = loan.userId then return else throw (.ownershipMismatch id loan.userId user)

/-- What happens behind the gate: the loan as it was, or the settled loan with the copies on the
shelf. -/
def settle (id : LoanId) (user : Option UserId) :
    Attempt Failure (ReturnOutcome × Option Int) := do
  let loan ← Attempt.need (.loanNotFound id) (← findLoan id)
  checkOwner id loan user
  if loan.isBorrowed then
    let now ← readClock
    if ← markReturned loan.id loan.userId now then
      let remaining ← restock loan.bookId
      return (.returned (loan.settled now), remaining)
    else
      throw (.returnRace id)
  else
    note (.loanAlreadySettled id loan.status)
    return (.alreadySettled loan, none)

/-- Carry out a command to return. -/
def giveBack (emit : EventSink) (c : Command) : Attempt Failure ReturnOutcome := do
  let id ← Attempt.need .missingLoanId c.payload.loanId
  match ← guarded (settle id c.payload.userId) with
  | (.alreadySettled loan, _) => return .alreadySettled loan
  | (.returned loan, remaining) =>
    let now ← readClock
    ExceptT.lift (emit (.returned loan remaining now))
    note (.loanReturned loan remaining)
    return .returned loan

end Circulation.Lending
