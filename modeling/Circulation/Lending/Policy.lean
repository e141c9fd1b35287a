/- # Circulation.Lending.Policy -- what becomes of a failed message

A message is acknowledged, put back into its queue, or set aside for good. The policy decides
between the last two when a command fails: either everything is put back, or only what a second try
can mend.
-/
import Circulation.Lending.Failure

namespace Circulation

/-- What becomes of failed commands. -/
inductive RetryPolicy where
  | redeliverAll
  | deadLetterPermanent
deriving DecidableEq, Inhabited

/-- What becomes of a message. -/
inductive Disposition where
  /-- It is done with. -/
  | ack
  /-- It goes back into its queue. -/
  | requeue
  /-- It is set aside and does not come again. -/
  | deadLetter
deriving DecidableEq, Inhabited

namespace Disposition

/-- The name of a disposition. -/
def text : Disposition → String
  | .ack => "Ack"
  | .requeue => "Requeue"
  | .deadLetter => "DeadLetter"

end Disposition

namespace RetryPolicy

/-- The policy when none is chosen. -/
def default : RetryPolicy := .redeliverAll

/-- The policy that a word names. -/
def ofText? (s : String) : Option RetryPolicy :=
  if s = "redeliver_all" then some .redeliverAll
  else if s = "dead_letter_permanent" then some .deadLetterPermanent
  else none

/-- The name of a policy. -/
def text : RetryPolicy → String
  | .redeliverAll => "RedeliverAll"
  | .deadLetterPermanent => "DeadLetterPermanent"

/-- What is said about a word that names no policy. -/
def invalidMessage (s : String) : String := "Invalid retry policy: " ++ s

/-- What becomes of a message whose command failed. -/
def dispositionFor (p : RetryPolicy) (f : Failure) : Disposition :=
  match p, f.kind with
  | .redeliverAll, _ => .requeue
  | .deadLetterPermanent, .transient => .requeue
  | .deadLetterPermanent, .permanent => .deadLetter

end RetryPolicy

end Circulation
