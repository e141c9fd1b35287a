/- # Circulation.Notice -- what is told to the operator

A notice is something worth a line in the log, with the values it is about. Its level, message and
named fields are fixed here, for all notices in one place. Notices given while a command is handled
carry the command's correlation number and kind.
-/
import Circulation.Command
import Circulation.Event
import Circulation.Lending.Policy
import Circulation.Messaging.Outcome
import Circulation.Messaging.Topic

namespace Circulation

/-! ## Lines -/

/-- How much a line matters. -/
inductive Level where
  | debug
  | info
  | warn
  | error
deriving DecidableEq

namespace Level

def text : Level → String
  | .debug => "DEBUG"
  | .info => "INFO"
  | .warn => "WARN"
  | .error => "ERROR"

end Level

/-- The command during which a notice is given. -/
structure Span where
  correlationId : String
  commandKind : CommandKind
deriving DecidableEq

/-- A line of the log. -/
structure LogLine where
  level : Level
  message : String
  fields : List (String × String)
deriving DecidableEq

/-! ## Values in fields -/

namespace LogField

/-- An optional value, spelled out. -/
def ofOption {α : Type} (f : α → String) : Option α → String
  | some a => "Some(" ++ f a ++ ")"
  | none => "None"

/-- A list of names in quotes. -/
def ofNames (names : List String) : String :=
  "[" ++ String.intercalate ", " (names.map fun n => "\"" ++ n ++ "\"") ++ "]"

/-- A whole event, spelled out. -/
def ofEvent (e : Event) : String :=
  "LoanEvent \x7b event_type: " ++ e.kind.text ++
    ", loan_id: LoanId(" ++ e.loanId.text ++
    "), user_id: UserId(" ++ e.userId.text ++
    "), book_id: BookId(" ++ e.bookId.text ++
    "), occurred_at: " ++ e.occurredAt.toText ++
    ", remaining_copies: " ++ ofOption Decimal.text e.remainingCopies ++
    ", due_date: " ++ ofOption Time.Instant.toText e.dueDate ++ " \x7d"

end LogField

/-! ## Notices -/

/-- Something worth a line in the log. -/
inductive Notice where
  /-- A message on the commands' topic is no command. -/
  | badCommand
  | unknownCommandKind
  | commandFailed (failure : Failure) (disposition : Disposition)
  /-- A loan stands without its copy having been taken from the stock. -/
  | inventoryNotDecremented (loan : LoanId) (book : BookId) (failure : Failure)
  | loanCreated (loan : Loan) (remaining : Int)
  | loanAlreadySettled (loan : LoanId) (status : LoanStatus)
  | returnedBookGone (book : BookId)
  | bookFullyStocked (book : BookId) (totalCopies : Int)
  | loanReturned (loan : Loan) (remaining : Option Int)
  /-- A message on the events' topic is no event. -/
  | badEvent
  | eventHeard (event : Event)
  | eventEmitted (event : Event) (outcome : PublishOutcome)
  | published (transport topic : String)
  | publishFailed (transport topic : String) (error : TransportError)
  | noFallback (topic : String)
  | fallbackFailed (transport topic : String) (error : TransportError)
  | noEndpoint
  | brokerReady (transport : String)
  | brokerUnavailable (error : TransportError)
  | queuesDeclared (topics : List String)
  | commandConsumerStarted (queue : String) (prefetch : Nat)
  | commandConsumerStopped (queue : String)
  | commandDeliveryFailed
  | eventConsumerStarted (queue : String)
  | eventConsumerStopped (queue : String)
  | eventDeliveryFailed
  | settlementFailed (disposition : Disposition)
  | closeFailed
  | noSubscribers (channel : String)
  | commandSubscriberStarted (channel : String)
  | commandSubscriberStopped (channel : String)
  | commandProcessed (disposition : Disposition)
  | eventSubscriberStarted (channel : String)
  | eventSubscriberStopped (channel : String)
deriving DecidableEq

namespace Notice

/-- The line about an event that a listener heard. -/
def eventLine (e : Event) : LogLine :=
  let subject := [("loan_id", e.loanId.text), ("user_id", e.userId.text),
    ("book_id", e.bookId.text),
    ("remaining_copies", LogField.ofOption Decimal.text e.remainingCopies)]
  match e.kind with
  | .requested => ⟨.info, "User requested loan",
      subject ++ [("due_date", LogField.ofOption Time.Instant.toText e.dueDate)]⟩
  | .approved => ⟨.info, "Loan approved", [("loan_id", e.loanId.text)]⟩
  | .rejected => ⟨.info, "Loan rejected", [("loan_id", e.loanId.text)]⟩
  | .returned => ⟨.info, "Loan returned", subject⟩
  | .unknown => ⟨.info, "Unknown loan event", [("event", LogField.ofEvent e)]⟩

/-- The line of a notice. -/
def line : Notice → LogLine
  | badCommand => ⟨.warn, "Bad loan command payload, dropping", []⟩
  | unknownCommandKind => ⟨.warn, "Unknown loan command type, dropping", []⟩
  | commandFailed failure disposition => ⟨.warn, "Loan command failed",
      [("error", failure.message), ("kind", failure.kind.text),
        ("disposition", disposition.text)]⟩
  | inventoryNotDecremented loan book failure =>
    ⟨.error, "Loan created but inventory was not decremented",
      [("loan_id", loan.text), ("book_id", book.text), ("error", failure.message)]⟩
  | loanCreated loan remaining => ⟨.info, "Loan created",
      [("loan_id", loan.id.text), ("user_id", loan.userId.text), ("book_id", loan.bookId.text),
        ("remaining_copies", Decimal.text remaining), ("due_date", loan.dueDate.toLogText)]⟩
  | loanAlreadySettled loan status => ⟨.debug, "Loan already settled, nothing to do",
      [("loan_id", loan.text), ("status", status.text)]⟩
  | returnedBookGone book => ⟨.warn, "Returned book no longer exists, inventory not restored",
      [("book_id", book.text)]⟩
  | bookFullyStocked book total => ⟨.warn, "Book already fully stocked, skipping increment",
      [("book_id", book.text), ("total_copies", Decimal.text total)]⟩
  | loanReturned loan remaining => ⟨.info, "Loan returned",
      [("loan_id", loan.id.text), ("user_id", loan.userId.text), ("book_id", loan.bookId.text),
        ("remaining_copies", LogField.ofOption Decimal.text remaining)]⟩
  | badEvent => ⟨.warn, "Invalid loan event received, dropping", []⟩
  | eventHeard event => eventLine event
  | eventEmitted event outcome => ⟨.debug, "Loan event emitted",
      [("event_type", event.kind.text), ("loan_id", event.loanId.text),
        ("outcome", outcome.text)]⟩
  | published transport topic => ⟨.debug, "Published message",
      [("transport", transport), ("topic", topic)]⟩
  | publishFailed transport topic error =>
    ⟨.error, "Publish failed, mirroring to fallback transport",
      [("transport", transport), ("topic", topic), ("error", error.message)]⟩
  | noFallback topic => ⟨.debug, "No fallback transport, message dropped", [("topic", topic)]⟩
  | fallbackFailed transport topic error => ⟨.warn, "Fallback publish failed, message dropped",
      [("transport", transport), ("topic", topic), ("error", error.message)]⟩
  | noEndpoint => ⟨.info, "No broker endpoint configured, using fallback transport only", []⟩
  | brokerReady transport => ⟨.info, "Durable broker initialised", [("transport", transport)]⟩
  | brokerUnavailable error =>
    ⟨.warn, "Failed to initialise durable broker, using fallback transport only",
      [("error", error.message)]⟩
  | queuesDeclared topics => ⟨.info, "Declared durable AMQP queues",
      [("topics", LogField.ofNames topics)]⟩
  | commandConsumerStarted queue prefetch => ⟨.info, "AMQP command consumer started",
      [("queue", queue), ("prefetch", Decimal.text prefetch)]⟩
  | commandConsumerStopped queue => ⟨.info, "AMQP command consumer stopped", [("queue", queue)]⟩
  | commandDeliveryFailed => ⟨.error, "Command consumer delivery error", []⟩
  | eventConsumerStarted queue => ⟨.info, "AMQP event listener started", [("queue", queue)]⟩
  | eventConsumerStopped queue => ⟨.info, "AMQP event listener stopped", [("queue", queue)]⟩
  | eventDeliveryFailed => ⟨.error, "Event listener delivery error", []⟩
  | settlementFailed disposition => ⟨.error, "Failed to settle delivery",
      [("disposition", disposition.text)]⟩
  | closeFailed => ⟨.warn, "Failed to close AMQP connection", []⟩
  | noSubscribers channel => ⟨.debug, "Published with no active subscribers",
      [("channel", channel)]⟩
  | commandSubscriberStarted channel => ⟨.info, "Redis command subscriber started",
      [("channel", channel)]⟩
  | commandSubscriberStopped channel => ⟨.info, "Redis command subscriber stopped",
      [("channel", channel)]⟩
  | commandProcessed disposition => ⟨.debug, "Fallback command processed",
      [("disposition", disposition.text)]⟩
  | eventSubscriberStarted channel => ⟨.info, "Redis event subscriber started",
      [("channel", channel)]⟩
  | eventSubscriberStopped channel => ⟨.info, "Redis event subscriber stopped",
      [("channel", channel)]⟩

end Notice

end Circulation
