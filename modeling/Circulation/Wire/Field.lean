/- # Circulation.Wire.Field -- fields of the messages

How the values of a message stand in a tree: numbers of loans, books and users as whole numbers,
instants as their text, names as choices. A number in a command's payload is absent if it is 0:
producers write 0 for a number they do not have.
-/
import Circulation.Json.Printer
import Circulation.Json.Reader
import Circulation.Json.Record
import Circulation.Identity
import Circulation.Time.Timestamp

namespace Circulation.Wire

open Time (Instant)

/-! ## Reading -/

def loanId? (j : Json) : Option LoanId := j.int?.map LoanId.mk

def bookId? (j : Json) : Option BookId := j.int?.map BookId.mk

def userId? (j : Json) : Option UserId := j.int?.map UserId.mk

/-- An instant by its text. -/
def instant? (j : Json) : Option Instant := j.text?.bind Instant.ofText?

/-- A number that may be missing, null or 0, which all say that there is none. -/
def presentNumber? (slot : Json.Slot) : Option (Option Int) :=
  (Json.optional Json.int? slot).map fun n => n.filter (· ≠ 0)

/-! ## Writing -/

def ofLoanId (id : LoanId) : Json := Json.ofInt id.value

def ofBookId (id : BookId) : Json := Json.ofInt id.value

def ofUserId (id : UserId) : Json := Json.ofInt id.value

/-- An instant as its text. -/
def ofInstant (t : Instant) : Json := Json.ofText t.toText

end Circulation.Wire
