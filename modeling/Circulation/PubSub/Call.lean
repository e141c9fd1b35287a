/- # Circulation.PubSub.Call -- what is asked of a publish/subscribe server

Messages on a channel reach those who are subscribed at the time and nobody else. The server says
how many there were. A call may fail, with a reason in the client's words.
-/
import Circulation.Bytes

namespace Circulation.PubSub

/-- A call to the server. -/
inductive Call where
  /-- Make a client for this address. -/
  | openClient (url : String)
  /-- Open the connection on which messages are published. -/
  | openPublisher
  | publish (channel : String) (body : Bytes)
  /-- Open a connection for a subscription. -/
  | openSubscription
  | subscribe (channel : String)
deriving DecidableEq

namespace Call

/-- What a call gives if it succeeds. -/
abbrev Result : Call → Type
  | publish .. => Int
  | _ => Unit

/-- The answer to a call: its result, or the client's words about the failure. -/
abbrev Answer (c : Call) : Type := Except String c.Result

end Call

end Circulation.PubSub
