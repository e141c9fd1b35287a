/- # Circulation.Command -- what is asked of the desk

A command is an intent to borrow or to return, sent by a producer somewhere else. Kinds that this
desk does not know are kept as unknown. The payload names what the command is about; every part of
it may be absent, and the desk decides which parts it needs.
-/
import Circulation.Identity
import Circulation.Time.Instant

namespace Circulation

open Time (Instant)

/-- What a command asks for. -/
inductive CommandKind where
  | borrow
  | giveBack
  | unknown
deriving DecidableEq, Inhabited

namespace CommandKind

/-- The word for a kind of command. -/
def text : CommandKind → String
  | .borrow => "borrow"
  | .giveBack => "return"
  | .unknown => "unknown"

/-- The kind that a word names; any other word names the unknown kind. -/
def ofText (s : String) : CommandKind :=
  if s = "borrow" then .borrow else if s = "return" then .giveBack else .unknown

theorem ofText_text (k : CommandKind) : ofText k.text = k := by cases k <;> rfl

end CommandKind

/-- What a command is about. -/
structure Payload where
  userId : Option UserId
  bookId : Option BookId
  days : Option Int
  loanId : Option LoanId
deriving DecidableEq, Inhabited

/-- An intent to borrow or return. -/
structure Command where
  kind : CommandKind
  /-- Empty if the producer gave none. -/
  correlationId : String
  requestedAt : Option Instant
  payload : Payload
deriving DecidableEq, Inhabited

namespace Command

/-- A command to borrow a book. -/
def borrow (correlationId : String) (at_ : Instant) (user : UserId) (book : BookId)
    (days : Option Int) : Command :=
  ⟨.borrow, correlationId, some at_, ⟨some user, some book, days, none⟩⟩

/-- A command to return a loan. -/
def giveBack (correlationId : String) (at_ : Instant) (user : UserId) (loan : LoanId) : Command :=
  ⟨.giveBack, correlationId, some at_, ⟨some user, none, none, some loan⟩⟩

end Command

end Circulation
