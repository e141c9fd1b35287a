/- # Circulation.Broker.Consumer -- consuming from durable queues

The consumer of commands settles each delivery by itself, after its message was answered and before
the next one is looked at. A settlement that fails is noted and nothing more. The consumer of events
takes deliveries that count as settled. Both stop at the first error of their stream or at its end.
-/
import Circulation.Broker.Link
import Circulation.Lending.Dispatch
import Circulation.Messaging.Listener

namespace Circulation.Broker

open Lending (Dispatcher)

/-! ## Starting -/

/-- Open a channel for a consumer. -/
def openConsumerChannel : Attempt TransportError Channel :=
  attempt .subscribe "Failed to create channel" .openChannel

/-- Consume a queue. -/
def startConsumer (channel : Channel) (c : Consumption) : Attempt TransportError Unit :=
  attempt .subscribe "Failed to start consumer" (.consume channel c)

/-- Start the consumer of commands, with at most `prefetch` unsettled deliveries. -/
def startCommandConsumer (prefetch : Nat) : Attempt TransportError Channel := do
  let channel ← openConsumerChannel
  declareDurable channel Topic.loanCommands
  attempt .subscribe "Failed to set prefetch" (.limitDeliveries channel prefetch false)
  startConsumer channel ⟨Topic.loanCommands, "loan-command-consumer", false, false⟩
  ExceptT.lift (Procedure.note (.commandConsumerStarted Topic.loanCommands prefetch))
  return channel

/-- Start the consumer of events. -/
def startEventConsumer : Attempt TransportError Channel := do
  let channel ← openConsumerChannel
  declareDurable channel Topic.loanEvents
  startConsumer channel ⟨Topic.loanEvents, "loan-event-listener", true, false⟩
  ExceptT.lift (Procedure.note (.eventConsumerStarted Topic.loanEvents))
  return channel

/-! ## Deliveries -/

/-- What the stream of a consumer yields. -/
inductive StreamItem where
  | delivery (tag : Nat) (body : Bytes)
  /-- The stream broke. -/
  | failure
deriving DecidableEq

/-- How a delivery with this disposition is settled. -/
def settlementFor : Disposition → Settlement
  | .ack => .ack false
  | .requeue => .nack false true
  | .deadLetter => .nack false false

/-- Settle one delivery. -/
def settle (tag : Nat) (d : Disposition) : Procedure Unit := do
  match ← Procedure.request (.broker (.settle tag (settlementFor d))) with
  | .ok () => return
  | .error _ => Procedure.note (.settlementFailed d)

/-- Work off items of the commands' stream. The answer says whether the stream is unbroken. -/
def feedCommands (d : Dispatcher) : List StreamItem → Procedure Bool
  | [] => return true
  | .delivery tag body :: rest => do
    let disposition ← d.dispatch body
    settle tag disposition
    feedCommands d rest
  | .failure :: _ => do
    Procedure.note .commandDeliveryFailed
    return false

/-- The consumer of commands over its whole stream. -/
def consumeCommands (d : Dispatcher) (stream : List StreamItem) : Procedure Unit := do
  let _ ← feedCommands d stream
  Procedure.note (.commandConsumerStopped Topic.loanCommands)

/-- Work off items of the events' stream. The answer says whether the stream is unbroken. -/
def feedEvents (l : Listener) : List StreamItem → Procedure Bool
  | [] => return true
  | .delivery _ body :: rest => do
    let _ ← l.deliver body
    feedEvents l rest
  | .failure :: _ => do
    Procedure.note .eventDeliveryFailed
    return false

/-- The consumer of events over its whole stream. -/
def consumeEvents (l : Listener) (stream : List StreamItem) : Procedure Unit := do
  let _ ← feedEvents l stream
  Procedure.note (.eventConsumerStopped Topic.loanEvents)

end Circulation.Broker
