/- # Circulation.Broker.Link -- a durable transport over a message broker

Connecting opens a channel for publishing, asks for confirmations on it and declares the durable
queues. A message counts as published when it is handed in and the broker has not refused it; on a
channel with confirmations that means that the broker has confirmed it. Each step that fails says
which step it was.
-/
import Circulation.Messaging.Transport

namespace Circulation.Broker

/-- A connection, with the channel on which messages are published. -/
structure Link where
  channel : Channel
deriving DecidableEq

/-- A call whose failure is an error of the transport, in front of the client's words. -/
def attempt (wrap : String → TransportError) (what : String) (c : Call) :
    Attempt TransportError c.Result :=
  .ofAnswer (fun cause => wrap (what ++ ": " ++ cause)) (Procedure.request (.broker c))

/-- Declare a queue that outlives the broker. -/
def declareDurable (channel : Channel) (queue : String) : Attempt TransportError Unit :=
  attempt .connection ("Failed to declare queue " ++ queue)
    (.declareQueue channel ⟨queue, false, true, false, false⟩)

/-- Declare queues one after another. -/
def declareAll (channel : Channel) : List String → Attempt TransportError Unit
  | [] => return
  | queue :: rest => do
    declareDurable channel queue
    declareAll channel rest

namespace Link

/-- Connect to a broker and declare the durable queues. -/
def connect (url : String) : Attempt TransportError Link := do
  attempt .connection "Failed to connect" (.openConnection url)
  let channel ← attempt .connection "Failed to create channel" .openChannel
  attempt .connection "Failed to enable publisher confirms" (.confirmSelect channel)
  declareAll channel Topic.durable
  ExceptT.lift (Procedure.note (.queuesDeclared Topic.durable))
  return ⟨channel⟩

/-- A message for the queue of a topic, as JSON that outlives the broker. -/
def publication (topic : String) (body : Bytes) : Publication :=
  ⟨"", topic, false, "application/json", 2, body⟩

/-- Publish a message and wait for the broker's word on it. Only a refusal is looked for. -/
def publish (link : Link) (topic : String) (body : Bytes) : Attempt TransportError Unit := do
  attempt .publish "Failed to publish" (.publish link.channel (publication topic body))
  let word ← attempt .publish "Publish confirmation failed" (.awaitConfirmation link.channel)
  if word.isNack then throw (.publish ("Broker rejected message on " ++ topic))

/-- The transport over a link. -/
def transport (link : Link) : Transport :=
  ⟨"amqp", fun topic body => (link.publish topic body).run⟩

/-- Close the connection; consumers on it end. -/
def close : Procedure Unit := do
  match ← Procedure.request (.broker (.closeConnection 200 "shutdown")) with
  | .ok () => return
  | .error _ => Procedure.note .closeFailed

end Link

end Circulation.Broker
