/- # Circulation.Database.Store -- the stores as tables of a database

Every call to the stores is one statement. `statement` gives it, and `read` makes the result of the
call from the server's reply. A loan is written as borrowed and without a return date, and it is
settled by a change that asks for exactly that status, so of two that settle it one changes nothing.
-/
import Circulation.Database.Reply
import Circulation.Store.Call

namespace Circulation.Database

/-! ## Statements -/

/-- The columns of a book. -/
def bookColumns : List String := ["id", "title", "total_copies", "available_copies"]

/-- The columns of a loan. -/
def loanColumns : List String :=
  ["id", "user_id", "book_id", "loan_date", "due_date", "return_date", "status"]

/-- The query of a call. -/
def query : StoreCall → Query
  | .findBook _ => .select bookColumns "books" [.equals "id" 1]
  | .saveBook _ =>
    .update "books"
      [("title", .param 1), ("total_copies", .param 2), ("available_copies", .param 3)]
      [.equals "id" 4]
  | .findLoan _ => .select loanColumns "loans" [.equals "id" 1]
  | .createLoan _ =>
    .insert "loans"
      [("user_id", .param 1), ("book_id", .param 2), ("loan_date", .param 3),
        ("due_date", .param 4), ("return_date", .null), ("status", .param 5)] "id"
  | .markReturned .. =>
    .update "loans" [("status", .param 1), ("return_date", .param 2)]
      [.equals "id" 3, .equals "user_id" 4, .equals "status" 5]
  | .hasActiveLoan .. =>
    .exist "loans"
      [.equals "user_id" 1, .equals "book_id" 2, .equals "status" 3, .isNull "return_date"]

/-- The parameters of a call. -/
def params : StoreCall → List Cell
  | .findBook id => [.int id.value]
  | .saveBook b =>
    [.text b.title, .int b.totalCopies, .int b.availableCopies, .int b.id.value]
  | .findLoan id => [.int id.value]
  | .createLoan d =>
    [.int d.userId.value, .int d.bookId.value, ofInstant d.loanDate, ofInstant d.dueDate,
      .text LoanStatus.borrowed.text]
  | .markReturned id user at_ =>
    [.text LoanStatus.returned.text, ofInstant at_, .int id.value, .int user.value,
      .text LoanStatus.borrowed.text]
  | .hasActiveLoan user book =>
    [.int user.value, .int book.value, .text LoanStatus.borrowed.text]

/-- The statement of a call. -/
def statement (c : StoreCall) : Statement := ⟨query c, params c⟩

/-! ## Reading rows -/

/-- The book in a row. -/
def readBook (row : Row) : Reading Book := do
  let id ← column readInt row "id"
  let title ← column readText row "title"
  let total ← column readInt row "total_copies"
  let available ← column readInt row "available_copies"
  return ⟨⟨id⟩, title, total, available⟩

/-- The status in a row. -/
def readStatus (row : Row) : Reading LoanStatus := do
  let word ← column readText row "status"
  match LoanStatus.ofText? word with
  | none => .error (.badStatus word)
  | some status => return status

/-- The loan in a row. The status is looked at first. -/
def readLoan (row : Row) : Reading Loan := do
  let status ← readStatus row
  let id ← column readInt row "id"
  let user ← column readInt row "user_id"
  let book ← column readInt row "book_id"
  let loaned ← column readInstant row "loan_date"
  let due ← column readInstant row "due_date"
  let returned ← column (readNullable readInstant) row "return_date"
  return ⟨⟨id⟩, ⟨user⟩, ⟨book⟩, loaned, due, returned, status⟩

/-! ## Results -/

/-- The result of a call from the reply to its statement. -/
def read (c : StoreCall) (reply : Reply) : Reading c.Result :=
  match c with
  | .findBook _ => do
    match ← firstRow reply with
    | none => return none
    | some row => return some (← readBook row)
  | .saveBook _ => anyAffected reply
  | .findLoan _ => do
    match ← firstRow reply with
    | none => return none
    | some row => return some (← readLoan row)
  | .createLoan d => do
    let id ← firstColumn readInt (← someRow reply)
    return d.toLoan ⟨id⟩
  | .markReturned .. => anyAffected reply
  | .hasActiveLoan .. => do
    firstColumn readBool (← someRow reply)

end Circulation.Database
