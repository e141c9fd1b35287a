/- # Circulation.Wire.Loan -- records of loans

The fields of a loan are `id`, `user_id`, `book_id`, `loan_date`, `due_date`, `return_date` and
`status`. Only the return date may be absent; it is written as null.
-/
import Circulation.Loan
import Circulation.Wire.Field

namespace Circulation.Loan

/-- The loan in a tree. -/
def ofJson? (j : Json) : Option Loan := do
  match ← j.slots? ["id", "user_id", "book_id", "loan_date", "due_date", "return_date",
      "status"] 7 with
  | [id, user, book, loaned, due, returned, status] =>
    let id ← Json.required Wire.loanId? id
    let user ← Json.required Wire.userId? user
    let book ← Json.required Wire.bookId? book
    let loaned ← Json.required Wire.instant? loaned
    let due ← Json.required Wire.instant? due
    let returned ← Json.optional Wire.instant? returned
    let status ← Json.required Json.choice? status
    let status ← LoanStatus.ofText? status
    return ⟨id, user, book, loaned, due, returned, status⟩
  | _ => none

/-- The loan as a tree. -/
def toJson (l : Loan) : Json :=
  .object [Json.entry "id" (Wire.ofLoanId l.id),
    Json.entry "user_id" (Wire.ofUserId l.userId),
    Json.entry "book_id" (Wire.ofBookId l.bookId),
    Json.entry "loan_date" (Wire.ofInstant l.loanDate),
    Json.entry "due_date" (Wire.ofInstant l.dueDate),
    Json.entry "return_date" ((l.returnDate.map Wire.ofInstant).getD .null),
    Json.entry "status" (Json.ofText l.status.text)]

/-- The loan that a message holds. -/
def decode? (message : Bytes) : Option Loan := (Json.read? message).bind ofJson?

/-- The message that holds a loan. -/
def encode (l : Loan) : Bytes := l.toJson.render

end Circulation.Loan
