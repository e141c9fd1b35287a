/- # Circulation.Request -- everything the library asks of its surroundings

The library computes; whatever is not computation is a request with a type of answers. The gate,
the clock, fresh numbers, the stores, the transports and the log are all reached in this way, so
what the library does is the sequence of its requests, and its surroundings can be a simulation, a
database or an adversary.
-/
import Circulation.Broker.Call
import Circulation.Notice
import Circulation.PubSub.Call
import Circulation.Store.Call

namespace Circulation

open Time (Instant)

/-- Something asked of the surroundings. -/
inductive Request where
  /-- Wait for the gate and pass it. -/
  | enterGate
  | leaveGate
  | readClock
  /-- A correlation number that was never used. -/
  | freshId
  | store (call : StoreCall)
  /-- Keep an event in the record of events. -/
  | record (event : Event)
  /-- Hand an event to the application. -/
  | hear (event : Event)
  /-- Give a message to a transport that is known by name. -/
  | send (transport topic : String) (body : Bytes)
  /-- Connect to the endpoint of a durable transport that is known by name. -/
  | dial (endpoint : String)
  | broker (call : Broker.Call)
  | pubSub (call : PubSub.Call)
  | note (notice : Notice) (span : Option Span)
deriving DecidableEq

namespace Request

/-- The answers to a request. -/
abbrev Answer : Request → Type
  | enterGate => Unit
  | leaveGate => Unit
  | readClock => Instant
  | freshId => String
  | store call => call.Answer
  | record _ => Unit
  | hear _ => Unit
  | send .. => Except TransportError Unit
  | dial _ => Except TransportError String
  | broker call => call.Answer
  | pubSub call => call.Answer
  | note .. => Unit

end Request

/-- Surroundings with a state: they answer any request and change. -/
abbrev Surroundings (σ : Type) := (q : Request) → σ → q.Answer × σ

end Circulation
