/- # Circulation.Lending.Borrow -- lending a book

A book is lent if it is in the catalogue with a copy on the shelf and is not out to the same user
already. Behind the gate the loan is stored before the stock is written. If the stock cannot be
written the loan stands, and the same command handed in again is refused because of it. The event
is sent after the gate is left.
-/
import Circulation.Command
import Circulation.Lending.Basic

namespace Circulation.Lending

/-- What happens behind the gate: the new loan, and the book as its stock was written. -/
def lend (user : UserId) (book : BookId) (days : Option Int) : Attempt Failure (Loan × Book) := do
  let found ← Attempt.need (.bookNotFound book) (← findBook book)
  let taken ← Attempt.ofExcept (fun _ => .noCopiesAvailable book) found.takeCopy
  if ← hasActiveLoan user book then
    throw (.alreadyBorrowed user book)
  let now ← readClock
  let draft ← Attempt.ofExcept (fun e => .invalidLoanDuration e.days)
    (LoanDraft.open? user book days now)
  let loan ← createLoan draft
  noting (.inventoryNotDecremented loan.id book) (saveBook taken)
  return (loan, taken)

/-- Carry out a command to borrow. -/
def borrow (emit : EventSink) (c : Command) : Attempt Failure Loan := do
  let user ← Attempt.need .missingUserId c.payload.userId
  let book ← Attempt.need .missingBookId c.payload.bookId
  let (loan, taken) ← guarded (lend user book c.payload.days)
  let now ← readClock
  ExceptT.lift (emit (.requested loan taken.availableCopies now))
  note (.loanCreated loan taken.availableCopies)
  return loan

end Circulation.Lending
