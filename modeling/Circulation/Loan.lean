/- # Circulation.Loan -- loans and how they are opened

A loan begins as a draft: who borrows what, from when until when. The store gives it a number. It is
borrowed until it is returned; a loan marked late is settled elsewhere. The due date is the loan
date plus a number of days, and opening fails if no instant is that late.
-/
import Circulation.Identity
import Circulation.Time.Timestamp

namespace Circulation

open Time (Instant)

/-! ## Status -/

/-- Where a loan stands. -/
inductive LoanStatus where
  | borrowed
  | returned
  | late
deriving DecidableEq, Inhabited

namespace LoanStatus

/-- The word for a status. -/
def text : LoanStatus → String
  | .borrowed => "borrowed"
  | .returned => "returned"
  | .late => "late"

/-- The status that a word names. -/
def ofText? (s : String) : Option LoanStatus :=
  if s = "borrowed" then some .borrowed
  else if s = "returned" then some .returned
  else if s = "late" then some .late
  else none

/-- What is said about a word that names no status. -/
def invalidMessage (s : String) : String := "Invalid loan status: " ++ s

theorem ofText?_text (s : LoanStatus) : ofText? s.text = some s := by cases s <;> rfl

end LoanStatus

/-! ## Loans -/

/-- One loan of one book. -/
structure Loan where
  id : LoanId
  userId : UserId
  bookId : BookId
  loanDate : Instant
  dueDate : Instant
  returnDate : Option Instant
  status : LoanStatus
deriving DecidableEq, Inhabited

/-- A loan that has no number yet. -/
structure LoanDraft where
  userId : UserId
  bookId : BookId
  loanDate : Instant
  dueDate : Instant
deriving DecidableEq, Inhabited

namespace Loan

/-- The book is out and the loan not settled. -/
def isBorrowed (l : Loan) : Bool := l.status == .borrowed

/-- The loan after the book came back. -/
def settled (l : Loan) (at_ : Instant) : Loan :=
  { l with status := .returned, returnDate := some at_ }

/-- The loan is out to this user for this book. -/
def isActiveFor (l : Loan) (user : UserId) (book : BookId) : Bool :=
  l.userId == user && l.bookId == book && l.isBorrowed

end Loan

/-! ## Opening a loan -/

/-- A loan lasts so many days if nothing else is asked. -/
def defaultLoanDays : Int := 7

/-- The days of a loan: those asked for if they are positive. -/
def resolveLoanDays : Option Int → Int
  | some days => if 0 < days then days else defaultLoanDays
  | none => defaultLoanDays

/-- No instant is so many days later. -/
structure DurationOutOfRange where
  days : Int
deriving DecidableEq

namespace LoanDraft

/-- The draft of a loan that begins now. -/
def open? (user : UserId) (book : BookId) (days : Option Int) (now : Instant) :
    Except DurationOutOfRange LoanDraft :=
  let days := resolveLoanDays days
  match now.addDays? days with
  | some due => .ok ⟨user, book, now, due⟩
  | none => .error ⟨days⟩

/-- The loan with the number that the store gives it. -/
def toLoan (d : LoanDraft) (id : LoanId) : Loan :=
  ⟨id, d.userId, d.bookId, d.loanDate, d.dueDate, none, .borrowed⟩

end LoanDraft

theorem resolveLoanDays_pos (days : Option Int) : 0 < resolveLoanDays days := by
  cases days with
  | none => decide
  | some d =>
    simp only [resolveLoanDays]
    split
    · assumption
    · decide

end Circulation
