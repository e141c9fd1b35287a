/- # Circulation.Lending.Failure -- why a command is not carried out

Each failure is a cause with the numbers it is about. A failure is permanent if handing the same
command in again cannot help, and transient if it can: the stores did not answer, or another write
came first.
-/
import Circulation.Identity

namespace Circulation

/-- What a store says when it does not answer. -/
structure StoreError where
  text : String
deriving DecidableEq, Inhabited

/-- Why a command is not carried out. -/
inductive Failure where
  | missingUserId
  | missingBookId
  | missingLoanId
  | bookNotFound (book : BookId)
  | noCopiesAvailable (book : BookId)
  | alreadyBorrowed (user : UserId) (book : BookId)
  | invalidLoanDuration (days : Int)
  | loanNotFound (loan : LoanId)
  | ownershipMismatch (loan : LoanId) (owner requestedBy : UserId)
  /-- The loan was settled by another write between reading and writing. -/
  | returnRace (loan : LoanId)
  /-- The book was gone when its stock was to be written. -/
  | inventoryUpdateRejected (book : BookId)
  | bookStore (error : StoreError)
  | loanStore (error : StoreError)
deriving DecidableEq

/-- Whether handing the command in again can help. -/
inductive FailureKind where
  | permanent
  | transient
deriving DecidableEq

namespace FailureKind

/-- The name of the kind. -/
def text : FailureKind → String
  | .permanent => "Permanent"
  | .transient => "Transient"

end FailureKind

namespace Failure

/-- The kind of a failure. -/
def kind : Failure → FailureKind
  | missingUserId | missingBookId | missingLoanId | bookNotFound _ | noCopiesAvailable _
  | alreadyBorrowed .. | invalidLoanDuration _ | loanNotFound _ | ownershipMismatch .. =>
    .permanent
  | returnRace _ | inventoryUpdateRejected _ | bookStore _ | loanStore _ => .transient

def isPermanent (f : Failure) : Bool := f.kind == .permanent

/-- What is said about a failure. -/
def message : Failure → String
  | missingUserId => "Borrow requires user_id in payload"
  | missingBookId => "Borrow requires book_id in payload"
  | missingLoanId => "Return requires loan_id in payload"
  | bookNotFound book => "Book " ++ book.text ++ " not found"
  | noCopiesAvailable book => "No copies available for book " ++ book.text
  | alreadyBorrowed user book => "User " ++ user.text ++ " already borrowed book " ++ book.text
  | invalidLoanDuration days => "Loan duration of " ++ Decimal.text days ++ " days is out of range"
  | loanNotFound loan => "Loan " ++ loan.text ++ " not found"
  | ownershipMismatch loan owner requestedBy =>
    "Loan " ++ loan.text ++ " belongs to user " ++ owner.text ++ " not " ++ requestedBy.text
  | returnRace loan => "No rows updated for loan " ++ loan.text
  | inventoryUpdateRejected book => "Inventory update for book " ++ book.text ++ " matched no rows"
  | bookStore _ => "Book store error"
  | loanStore _ => "Loan store error"

/-- What the store said, if the failure is the store's. -/
def cause? : Failure → Option StoreError
  | bookStore error | loanStore error => some error
  | _ => none

end Failure

end Circulation
