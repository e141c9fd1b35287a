/- # Circulation.Rehearsal.PubSubStandIn -- a publish/subscribe server to rehearse with

The stand-in answers every publication with a number of receivers that it is told. Publishing and
subscribing can be made to fail, by an error or by losing the connection. A subscription that is
refused by an error looks to the client like one that is accepted, only that no message comes. When
the server takes no new connections, those that are open stay.
-/
import Circulation.PubSub.Call

namespace Circulation.Rehearsal

/-- How a command of the server fails. -/
inductive PubSubFault where
  | error
  /-- The connection is lost. -/
  | lost
deriving DecidableEq

/-- The state of the server. -/
structure PubSubStandIn where
  /-- No new connections are taken. -/
  down : Bool
  /-- The connection for publishing is open. -/
  publishing : Bool
  receivers : Int
  publishFault : Option PubSubFault
  subscribeFault : Option PubSubFault
  /-- The channels with a subscriber that waits for messages. -/
  subscribed : List String
  /-- What was asked, in order. -/
  calls : List PubSub.Call

namespace PubSubStandIn

/-- The address of the stand-in. -/
def address : String := "redis://stand-in"

/-- What a client says about a failure. -/
def cause : String := "<cause>"

/-- A server nobody has connected to. -/
def fresh : PubSubStandIn := ⟨false, false, 0, none, none, [], []⟩

/-- The call reaches the server. -/
def heard (s : PubSubStandIn) (c : PubSub.Call) : PubSubStandIn :=
  { s with calls := s.calls ++ [c] }

/-- Nobody waits on the channel any more. -/
def unsubscribe (s : PubSubStandIn) (channel : String) : PubSubStandIn :=
  { s with subscribed := s.subscribed.filter (· ≠ channel) }

/-- Answer a call. A lost connection for publishing is opened again when it is needed. -/
def answer (c : PubSub.Call) (s : PubSubStandIn) : c.Answer × PubSubStandIn :=
  match c with
  | .openClient url => (if url = address then .ok () else .error cause, s)
  | .openPublisher => if s.down then (.error cause, s) else (.ok (), { s with publishing := true })
  | .publish channel body =>
    if s.publishing || !s.down then
      let s := { s.heard (.publish channel body) with publishing := true }
      match s.publishFault with
      | none => (.ok s.receivers, s)
      | some .error => (.error cause, s)
      | some .lost => (.error cause, { s with publishing := false })
    else (.error cause, s)
  | .openSubscription => (if s.down then .error cause else .ok (), s)
  | .subscribe channel =>
    let s := s.heard (.subscribe channel)
    match s.subscribeFault with
    | none => (.ok (), { s with subscribed := channel :: s.subscribed })
    | some .error => (.ok (), s)
    | some .lost => (.error cause, s)

end PubSubStandIn

end Circulation.Rehearsal
