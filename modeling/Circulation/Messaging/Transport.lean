/- # Circulation.Messaging.Transport -- carriers of messages

A transport has a name and takes messages on a topic, or says why not. Whatever it asks of its
surroundings to do so is its own affair.
-/
import Circulation.Procedure

namespace Circulation

/-- A carrier of messages. -/
structure Transport where
  name : String
  publish : (topic : String) → (body : Bytes) → Procedure (Except TransportError Unit)

namespace Transport

/-- The transport that hands every message to the surroundings under its name. -/
def named (name : String) : Transport :=
  ⟨name, fun topic body => Procedure.request (.send name topic body)⟩

end Transport

end Circulation
