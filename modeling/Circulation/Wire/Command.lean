/- # Circulation.Wire.Command -- commands as messages

The fields of a command are `type`, `correlation_id`, `requested_at` and `payload`, those of its
payload `user_id`, `book_id`, `days` and `loan_id`. The payload must be there, though it may be
empty; the kind must be there; an empty correlation number and everything absent is not written.
-/
import Circulation.Command
import Circulation.Wire.Field

namespace Circulation

namespace Payload

/-- The payload in a tree. -/
def ofJson? (j : Json) : Option Payload := do
  match ← j.slots? ["user_id", "book_id", "days", "loan_id"] 0 with
  | [user, book, days, loan] =>
    let user ← Wire.presentNumber? user
    let book ← Wire.presentNumber? book
    let days ← Json.optional Json.int? days
    let loan ← Wire.presentNumber? loan
    return ⟨user.map UserId.mk, book.map BookId.mk, days, loan.map LoanId.mk⟩
  | _ => none

/-- The payload as a tree. -/
def toJson (p : Payload) : Json :=
  .object (Json.entry? "user_id" (p.userId.map Wire.ofUserId) ++
    Json.entry? "book_id" (p.bookId.map Wire.ofBookId) ++
    Json.entry? "days" (p.days.map Json.ofInt) ++
    Json.entry? "loan_id" (p.loanId.map Wire.ofLoanId))

end Payload

namespace Command

/-- The command in a tree. -/
def ofJson? (j : Json) : Option Command := do
  match ← j.slots? ["type", "correlation_id", "requested_at", "payload"] 4 with
  | [kind, correlationId, requestedAt, payload] =>
    let kind ← Json.required Json.choice? kind
    let correlationId ← Json.withDefault "" Json.text? correlationId
    let requestedAt ← Json.optional Wire.instant? requestedAt
    let payload ← Json.required Payload.ofJson? payload
    return ⟨.ofText kind, correlationId, requestedAt, payload⟩
  | _ => none

/-- The command as a tree. -/
def toJson (c : Command) : Json :=
  .object ([Json.entry "type" (Json.ofText c.kind.text)] ++
    Json.entry? "correlation_id"
      (if c.correlationId.isEmpty then none else some (Json.ofText c.correlationId)) ++
    Json.entry? "requested_at" (c.requestedAt.map Wire.ofInstant) ++
    [Json.entry "payload" c.payload.toJson])

/-- The command that a message holds. -/
def decode? (message : Bytes) : Option Command := (Json.read? message).bind ofJson?

/-- The message that holds a command. -/
def encode (c : Command) : Bytes := c.toJson.render

end Command

end Circulation
