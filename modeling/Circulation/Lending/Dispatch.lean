/- # Circulation.Lending.Dispatch -- from a message to what becomes of it

A message on the commands' topic is read, carried out, and answered with a disposition. What is no
command, or a command of unknown kind, is acknowledged so that it does not come again; a failed
command is answered as the policy says.
-/
import Circulation.Lending.Borrow
import Circulation.Lending.GiveBack
import Circulation.Wire.Command

namespace Circulation.Lending

/-- The one who answers messages: where events go, and what becomes of failed commands. -/
structure Dispatcher where
  emit : EventSink
  policy : RetryPolicy

namespace Dispatcher

/-- The disposition that a result leads to. -/
def conclude {α : Type} (d : Dispatcher) (attempt : Attempt Failure α) : Procedure Disposition := do
  match ← attempt.run with
  | .ok _ => return .ack
  | .error failure =>
    let disposition := d.policy.dispositionFor failure
    Procedure.note (.commandFailed failure disposition)
    return disposition

/-- Carry out a command. -/
def handle (d : Dispatcher) (c : Command) : Procedure Disposition :=
  match c.kind with
  | .borrow => d.conclude (borrow d.emit c)
  | .giveBack => d.conclude (giveBack d.emit c)
  | .unknown => do
    Procedure.note .unknownCommandKind
    return .ack

/-- Answer a message. Notices about its command are marked with it. -/
def dispatch (d : Dispatcher) (message : Bytes) : Procedure Disposition :=
  match Command.decode? message with
  | none => do
    Procedure.note .badCommand
    return .ack
  | some c => (d.handle c).within ⟨c.correlationId, c.kind⟩

end Dispatcher

end Circulation.Lending
