/- # Circulation.Store.Call -- what is asked of the stores of books and loans

The desk asks six things of its stores. Each call has an answer of its own type, and any call may
find that the store does not answer. A store is whatever answers these calls: tables in memory,
or statements to a database.
-/
import Circulation.Book
import Circulation.Lending.Failure
import Circulation.Loan

namespace Circulation

open Time (Instant)

/-- A call to the stores. -/
inductive StoreCall where
  | findBook (id : BookId)
  /-- Write a book back under its number, if it is still there. -/
  | saveBook (book : Book)
  | findLoan (id : LoanId)
  /-- Store a draft as a new loan, borrowed and not yet returned. -/
  | createLoan (draft : LoanDraft)
  /-- Settle the loan, if it is this user's and still borrowed when written. -/
  | markReturned (id : LoanId) (user : UserId) (at_ : Instant)
  /-- Is this book out to this user? -/
  | hasActiveLoan (user : UserId) (book : BookId)
deriving DecidableEq

namespace StoreCall

/-- What a store finds or does, if it answers. -/
abbrev Result : StoreCall → Type
  | findBook _ => Option Book
  | saveBook _ => Bool
  | findLoan _ => Option Loan
  | createLoan _ => Loan
  | markReturned .. => Bool
  | hasActiveLoan .. => Bool

/-- The answer of a store. -/
abbrev Answer (c : StoreCall) : Type := Except StoreError c.Result

end StoreCall

end Circulation
