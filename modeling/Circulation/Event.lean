/- # Circulation.Event -- what has happened to a loan

An event tells listeners about a change that is already made. This desk issues two kinds, a loan
requested and a loan returned; it reads the others as well, and keeps kinds it does not know as
unknown.
-/
import Circulation.Loan

namespace Circulation

open Time (Instant)

/-- What an event reports. -/
inductive EventKind where
  | requested
  | approved
  | rejected
  | returned
  | unknown
deriving DecidableEq, Inhabited

namespace EventKind

/-- The name of a kind of event. -/
def text : EventKind → String
  | .requested => "LoanRequested"
  | .approved => "LoanApproved"
  | .rejected => "LoanRejected"
  | .returned => "LoanReturned"
  | .unknown => "Unknown"

/-- The kind that a name stands for; any other name stands for the unknown kind. -/
def ofText (s : String) : EventKind :=
  if s = "LoanRequested" then .requested
  else if s = "LoanApproved" then .approved
  else if s = "LoanRejected" then .rejected
  else if s = "LoanReturned" then .returned
  else .unknown

theorem ofText_text (k : EventKind) : ofText k.text = k := by cases k <;> rfl

end EventKind

/-- A change of a loan, as listeners hear of it. -/
structure Event where
  kind : EventKind
  loanId : LoanId
  userId : UserId
  bookId : BookId
  occurredAt : Instant
  remainingCopies : Option Int
  dueDate : Option Instant
deriving DecidableEq, Inhabited

namespace Event

/-- A loan was made; so many copies are left. -/
def requested (l : Loan) (remaining : Int) (at_ : Instant) : Event :=
  ⟨.requested, l.id, l.userId, l.bookId, at_, some remaining, some l.dueDate⟩

/-- A loan was returned. The copies on the shelf are absent if the book is not in the catalogue. -/
def returned (l : Loan) (remaining : Option Int) (at_ : Instant) : Event :=
  ⟨.returned, l.id, l.userId, l.bookId, at_, remaining, none⟩

end Event

end Circulation
