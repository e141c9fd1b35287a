/- # Circulation.Messaging.Outcome -- where a published message went

Publishing never fails for the one who publishes. What is left of it is which path took the
message, if any.
-/

namespace Circulation

/-- Where a published message went. -/
inductive PublishOutcome where
  /-- The durable transport took it. -/
  | primary
  /-- The durable transport refused it and the fallback took it. -/
  | mirrored
  /-- There is no durable transport and the fallback took it. -/
  | fallback
  /-- Nobody took it. -/
  | dropped
deriving DecidableEq, Inhabited

namespace PublishOutcome

/-- The name of an outcome. -/
def text : PublishOutcome → String
  | .primary => "Primary"
  | .mirrored => "Mirrored"
  | .fallback => "Fallback"
  | .dropped => "Dropped"

end PublishOutcome

/-- Whether a durable transport was found at the start. -/
inductive TransportMode where
  | primaryActive
  | fallbackOnly
deriving DecidableEq, Inhabited

namespace TransportMode

/-- The word for a mode. -/
def text : TransportMode → String
  | .primaryActive => "primary_active"
  | .fallbackOnly => "fallback_only"

end TransportMode

end Circulation
