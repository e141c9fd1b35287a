/- # Circulation.Messaging.Selector -- which transports are used

At the start, and only then, one connection to a durable transport is tried, if there is an address
for it. If it succeeds that transport is the primary one for good; if not there is none. The
fallback is given from outside and may be missing.
-/
import Circulation.Messaging.Transport
import Circulation.Text.Blank

namespace Circulation

/-- The transports in use. -/
structure Selector where
  primary : Option Transport
  fallback : Option Transport

namespace Selector

/-- Whether there is a durable transport. -/
def mode (s : Selector) : TransportMode :=
  if s.primary.isSome then .primaryActive else .fallbackOnly

/-- The transports found at the start, with the connection to the durable one if there is one. An
absent or blank address is not tried. -/
def establish {τ : Type} (endpoint : Option String)
    (connect : String → Procedure (Except TransportError τ)) (transport : τ → Transport)
    (fallback : Option Transport) : Procedure (Selector × Option τ) := do
  match endpoint.filter fun e => !Text.allBlank e with
  | none =>
    Procedure.note .noEndpoint
    return (⟨none, fallback⟩, none)
  | some url =>
    match ← connect url with
    | .ok link =>
      Procedure.note (.brokerReady (transport link).name)
      return (⟨some (transport link), fallback⟩, some link)
    | .error e =>
      Procedure.note (.brokerUnavailable e)
      return (⟨none, fallback⟩, none)

end Selector

end Circulation
