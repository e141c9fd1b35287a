/- # Circulation.Messaging.Listener -- hearing of events

A listener reads messages on the events' topic and hands each event to its handler. What is no event
is dropped. Events may come twice or not at all.
-/
import Circulation.Procedure
import Circulation.Wire.Event

namespace Circulation

/-- What is done with an event that was heard. -/
structure Listener where
  handle : Event → Procedure Unit

namespace Listener

/-- The listener that only notes what it hears. -/
def logging : Listener := ⟨fun e => Procedure.note (.eventHeard e)⟩

/-- The listener that hands events to the application. -/
def application : Listener := ⟨fun e => Procedure.request (.hear e)⟩

/-- The listener that hands events to the application and notes them. -/
def applicationLogging : Listener :=
  ⟨fun e => do
    Procedure.request (.hear e)
    Procedure.note (.eventHeard e)⟩

/-- Deliver a message; the answer says whether it was an event. -/
def deliver (l : Listener) (message : Bytes) : Procedure Bool := do
  match Event.decode? message with
  | some e =>
    l.handle e
    return true
  | none =>
    Procedure.note .badEvent
    return false

end Listener

end Circulation
