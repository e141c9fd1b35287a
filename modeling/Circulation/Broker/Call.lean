/- # Circulation.Broker.Call -- what is asked of a message broker

The calls of an AMQP client that the library makes, with every option it sets, and the answers. A
call may fail, with a reason in the client's words. Channels are told apart by numbers that the
broker's side gives out.
-/
import Circulation.Bytes

namespace Circulation.Broker

/-- The number of a channel on a connection. -/
abbrev Channel := Nat

/-- How a queue is declared. -/
structure QueueDeclaration where
  queue : String
  passive : Bool
  durable : Bool
  exclusive : Bool
  autoDelete : Bool
deriving DecidableEq

/-- How a queue is consumed. -/
structure Consumption where
  queue : String
  tag : String
  /-- Deliveries count as settled at once. -/
  noAck : Bool
  exclusive : Bool
deriving DecidableEq

/-- A message with the way it is published. -/
structure Publication where
  exchange : String
  routingKey : String
  mandatory : Bool
  contentType : String
  /-- 2 says that the message outlives the broker. -/
  deliveryMode : Nat
  body : Bytes
deriving DecidableEq

/-- How a delivery is settled. -/
inductive Settlement where
  | ack (multiple : Bool)
  | nack (multiple requeue : Bool)
deriving DecidableEq

/-- What the broker says about a publication. -/
inductive Confirmation where
  | ack
  | nack
  /-- Nothing: confirms are not enabled on the channel. -/
  | notRequested
deriving DecidableEq

/-- The publication is refused. -/
def Confirmation.isNack : Confirmation → Bool
  | nack => true
  | _ => false

/-- A call to the broker. -/
inductive Call where
  | openConnection (url : String)
  | openChannel
  | confirmSelect (channel : Channel)
  | declareQueue (channel : Channel) (declaration : QueueDeclaration)
  /-- At most so many unsettled deliveries at a time. -/
  | limitDeliveries (channel : Channel) (prefetch : Nat) (global : Bool)
  | consume (channel : Channel) (consumption : Consumption)
  | publish (channel : Channel) (publication : Publication)
  | awaitConfirmation (channel : Channel)
  | settle (deliveryTag : Nat) (settlement : Settlement)
  | closeConnection (code : Nat) (text : String)
deriving DecidableEq

namespace Call

/-- What a call gives if it succeeds. -/
abbrev Result : Call → Type
  | openChannel => Channel
  | awaitConfirmation _ => Confirmation
  | _ => Unit

/-- The answer to a call: its result, or the client's words about the failure. -/
abbrev Answer (c : Call) : Type := Except String c.Result

end Call

end Circulation.Broker
