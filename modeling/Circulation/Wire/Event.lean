/- # Circulation.Wire.Event -- events as messages

The fields of an event are `event_type`, `loan_id`, `user_id`, `book_id`, `time`,
`remaining_copies` and `due_date`. The last two may be absent and are then not written.
-/
import Circulation.Event
import Circulation.Wire.Field

namespace Circulation.Event

/-- The event in a tree. -/
def ofJson? (j : Json) : Option Event := do
  match ← j.slots? ["event_type", "loan_id", "user_id", "book_id", "time", "remaining_copies",
      "due_date"] 5 with
  | [kind, loan, user, book, time, remaining, due] =>
    let kind ← Json.required Json.choice? kind
    let loan ← Json.required Wire.loanId? loan
    let user ← Json.required Wire.userId? user
    let book ← Json.required Wire.bookId? book
    let time ← Json.required Wire.instant? time
    let remaining ← Json.optional Json.int? remaining
    let due ← Json.optional Wire.instant? due
    return ⟨.ofText kind, loan, user, book, time, remaining, due⟩
  | _ => none

/-- The event as a tree. -/
def toJson (e : Event) : Json :=
  .object ([Json.entry "event_type" (Json.ofText e.kind.text),
    Json.entry "loan_id" (Wire.ofLoanId e.loanId),
    Json.entry "user_id" (Wire.ofUserId e.userId),
    Json.entry "book_id" (Wire.ofBookId e.bookId),
    Json.entry "time" (Wire.ofInstant e.occurredAt)] ++
    Json.entry? "remaining_copies" (e.remainingCopies.map Json.ofInt) ++
    Json.entry? "due_date" (e.dueDate.map Wire.ofInstant))

/-- The event that a message holds. -/
def decode? (message : Bytes) : Option Event := (Json.read? message).bind ofJson?

/-- The message that holds an event. -/
def encode (e : Event) : Bytes := e.toJson.render

end Circulation.Event
