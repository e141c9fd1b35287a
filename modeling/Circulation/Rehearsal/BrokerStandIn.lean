/- # Circulation.Rehearsal.BrokerStandIn -- a message broker to rehearse with

The stand-in accepts everything except what it is told to refuse. Refusing a channel closes the
connection; refusing anything on a channel closes that channel. What is asked on something closed
fails without reaching the broker. Messages that are published are not routed to consumers.
-/
import Circulation.Broker.Call

namespace Circulation.Rehearsal

open Broker (Channel Settlement)

/-- A kind of request that the broker can refuse. -/
inductive BrokerMethod where
  | openConnection
  | openChannel
  | confirmSelect
  | declareQueue
  | limitDeliveries
  | consume
deriving DecidableEq

/-- Refuse one request of this kind, for this queue, or for any if the queue is empty. -/
structure Refusal where
  method : BrokerMethod
  queue : String
deriving DecidableEq

/-- How publications are confirmed. -/
inductive ConfirmMode where
  | ack
  | nack
  /-- The publishing channel is closed instead. -/
  | close
deriving DecidableEq

/-- The state of the broker and of the one connection to it. -/
structure BrokerStandIn where
  refusals : List Refusal
  connected : Bool
  nextChannel : Channel
  closedChannels : List Channel
  confirms : ConfirmMode
  /-- What was asked, in order. -/
  calls : List Broker.Call
  /-- How deliveries were settled, in order. -/
  settlements : List Settlement

namespace BrokerStandIn

/-- The address of the stand-in. -/
def address : String := "amqp://stand-in"

/-- What a client says about a failure. -/
def cause : String := "<cause>"

/-- A broker nobody has connected to. -/
def fresh (refusals : List Refusal) : BrokerStandIn := ⟨refusals, false, 0, [], .ack, [], []⟩

/-- The channel can be used. -/
def isOpen (b : BrokerStandIn) (channel : Channel) : Bool :=
  b.connected && !b.closedChannels.contains channel

/-- The call reaches the broker. -/
def heard (b : BrokerStandIn) (c : Broker.Call) : BrokerStandIn :=
  { b with calls := b.calls ++ [c] }

/-- The channel is closed. -/
def closeChannel (b : BrokerStandIn) (channel : Channel) : BrokerStandIn :=
  { b with closedChannels := channel :: b.closedChannels }

/-- Whether the next request of a kind is refused; a refusal is used up. -/
def refuses (b : BrokerStandIn) (method : BrokerMethod) (queue : String) : Bool × BrokerStandIn :=
  let hit (r : Refusal) : Bool := r.method == method && (r.queue == "" || r.queue == queue)
  (b.refusals.any hit, { b with refusals := b.refusals.eraseP hit })

/-- A request on a channel that gives nothing back. -/
def onChannel (b : BrokerStandIn) (channel : Channel) (method : BrokerMethod) (queue : String)
    (c : Broker.Call) : Except String Unit × BrokerStandIn :=
  if b.isOpen channel then
    let (refused, b) := (b.heard c).refuses method queue
    if refused then (.error cause, b.closeChannel channel) else (.ok (), b)
  else (.error cause, b)

/-- Answer a call. -/
def answer (c : Broker.Call) (b : BrokerStandIn) : c.Answer × BrokerStandIn :=
  match c with
  | .openConnection url =>
    if url = address then
      let (refused, b) := b.refuses .openConnection ""
      if refused then (.error cause, b) else (.ok (), { b with connected := true })
    else (.error cause, b)
  | .openChannel =>
    if b.connected then
      let (refused, b) := (b.heard .openChannel).refuses .openChannel ""
      if refused then (.error cause, { b with connected := false })
      else (.ok b.nextChannel, { b with nextChannel := b.nextChannel + 1 })
    else (.error cause, b)
  | .confirmSelect channel => b.onChannel channel .confirmSelect "" (.confirmSelect channel)
  | .declareQueue channel d => b.onChannel channel .declareQueue d.queue (.declareQueue channel d)
  | .limitDeliveries channel n global =>
    b.onChannel channel .limitDeliveries "" (.limitDeliveries channel n global)
  | .consume channel consumption =>
    b.onChannel channel .consume consumption.queue (.consume channel consumption)
  | .publish channel p =>
    if b.isOpen channel then (.ok (), b.heard (.publish channel p)) else (.error cause, b)
  | .awaitConfirmation channel =>
    match b.confirms with
    | .ack => (.ok .ack, b)
    | .nack => (.ok .nack, b)
    | .close => (.error cause, b.closeChannel channel)
  | .settle _ s =>
    if b.connected then (.ok (), { b with settlements := b.settlements ++ [s] })
    else (.error cause, b)
  | .closeConnection code text =>
    if b.connected then (.ok (), { b.heard (.closeConnection code text) with connected := false })
    else (.error cause, b)

end BrokerStandIn

end Circulation.Rehearsal
