/- # Circulation.PubSub.Client -- the fallback over publish/subscribe

Messages are published on one connection and received on one connection for each subscription.
Nothing is confirmed and nothing settled: a command that fails is not seen again, and what becomes
of it is only noted.
-/
import Circulation.Lending.Dispatch
import Circulation.Messaging.Listener
import Circulation.Messaging.Transport

namespace Circulation.PubSub

open Lending (Dispatcher)

/-- A call whose failure is an error of the transport, in front of the client's words. -/
def attempt (wrap : String → TransportError) (what : String) (c : Call) :
    Attempt TransportError c.Result :=
  .ofAnswer (fun cause => wrap (what ++ ": " ++ cause)) (Procedure.request (.pubSub c))

/-! ## Publishing -/

/-- Connect for publishing. -/
def connect (url : String) : Attempt TransportError Unit := do
  attempt .connection "Failed to create Redis client" (.openClient url)
  attempt .connection "Failed to create Redis connection manager" .openPublisher

/-- Publish a message. That nobody received it is noted. -/
def publish (topic : String) (body : Bytes) : Attempt TransportError Unit := do
  let receivers ← attempt .publish "Failed to publish" (.publish topic body)
  if receivers = 0 then ExceptT.lift (Procedure.note (.noSubscribers topic))

/-- The transport over publish/subscribe. -/
def transport : Transport := ⟨"redis", fun topic body => (publish topic body).run⟩

/-! ## Subscribing -/

/-- Open a subscription of a channel. -/
def subscribe (channel : String) : Attempt TransportError Unit := do
  attempt .subscribe "Failed to open pubsub connection" .openSubscription
  attempt .subscribe ("Failed to subscribe to " ++ channel) (.subscribe channel)

/-- Start the subscriber of commands. -/
def startCommandSubscriber : Attempt TransportError Unit := do
  subscribe Topic.loanCommands
  ExceptT.lift (Procedure.note (.commandSubscriberStarted Topic.loanCommands))

/-- Start the subscriber of events. -/
def startEventSubscriber : Attempt TransportError Unit := do
  subscribe Topic.loanEvents
  ExceptT.lift (Procedure.note (.eventSubscriberStarted Topic.loanEvents))

/-- Answer messages one after another. -/
def feedCommands (d : Dispatcher) : List Bytes → Procedure Unit
  | [] => return
  | message :: rest => do
    let disposition ← d.dispatch message
    Procedure.note (.commandProcessed disposition)
    feedCommands d rest

/-- The subscriber of commands over all its messages. -/
def receiveCommands (d : Dispatcher) (messages : List Bytes) : Procedure Unit := do
  feedCommands d messages
  Procedure.note (.commandSubscriberStopped Topic.loanCommands)

/-- Deliver messages one after another. -/
def feedEvents (l : Listener) : List Bytes → Procedure Unit
  | [] => return
  | message :: rest => do
    let _ ← l.deliver message
    feedEvents l rest

/-- The subscriber of events over all its messages. -/
def receiveEvents (l : Listener) (messages : List Bytes) : Procedure Unit := do
  feedEvents l messages
  Procedure.note (.eventSubscriberStopped Topic.loanEvents)

end Circulation.PubSub
