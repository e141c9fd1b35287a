/- # Circulation.Messaging.Publisher -- sending commands and events out

A message goes to the primary transport. If that refuses it, or there is none, the fallback is
tried once. Errors are noted and not handed on: the one who publishes learns only where the message
went. As a sink for events the publisher cannot disturb the desk.
-/
import Circulation.Lending.Basic
import Circulation.Messaging.Selector
import Circulation.Wire.Command
import Circulation.Wire.Event

namespace Circulation.Selector

/-- Try the fallback. The answer says whether it took the message. -/
def publishFallback (s : Selector) (topic : String) (body : Bytes) : Procedure Bool := do
  match s.fallback with
  | none =>
    Procedure.note (.noFallback topic)
    return false
  | some fallback =>
    match ← fallback.publish topic body with
    | .ok () =>
      Procedure.note (.published fallback.name topic)
      return true
    | .error e =>
      Procedure.note (.fallbackFailed fallback.name topic e)
      return false

/-- Publish a message, by the fallback if need be. -/
def publish (s : Selector) (topic : String) (body : Bytes) : Procedure PublishOutcome := do
  match s.primary with
  | none => return if ← s.publishFallback topic body then .fallback else .dropped
  | some primary =>
    match ← primary.publish topic body with
    | .ok () =>
      Procedure.note (.published primary.name topic)
      return .primary
    | .error e =>
      Procedure.note (.publishFailed primary.name topic e)
      return if ← s.publishFallback topic body then .mirrored else .dropped

/-- Publish a command on its topic. -/
def publishCommand (s : Selector) (c : Command) : Procedure PublishOutcome :=
  s.publish Topic.loanCommands c.encode

/-- Publish an event on its topic. -/
def publishEvent (s : Selector) (e : Event) : Procedure PublishOutcome :=
  s.publish Topic.loanEvents e.encode

/-- The sink that publishes events. -/
def eventSink (s : Selector) : Lending.EventSink := fun e => do
  let outcome ← s.publishEvent e
  Procedure.note (.eventEmitted e outcome)

end Circulation.Selector

namespace Circulation.Command

/-- A new command to borrow, with a fresh number and the present time. -/
def newBorrow (user : UserId) (book : BookId) (days : Option Int) : Procedure Command := do
  let id ← Procedure.request .freshId
  let now ← Procedure.readClock
  return .borrow id now user book days

/-- A new command to return, with a fresh number and the present time. -/
def newGiveBack (user : UserId) (loan : LoanId) : Procedure Command := do
  let id ← Procedure.request .freshId
  let now ← Procedure.readClock
  return .giveBack id now user loan

end Circulation.Command
