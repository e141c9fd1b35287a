/- # Circulation.Rehearsal.World -- surroundings to rehearse with

A world is a desk in memory, with calls to its stores that can be made to fail, and everything
around it: two transports that keep what they are given, a broker, a publish/subscribe server, an
application that hears events, and a log. It answers every request of the library. It breaks off
when the clock is read and shows nothing, and when the ledger runs out of numbers.
-/
import Circulation.Correlation
import Circulation.Rehearsal.BrokerStandIn
import Circulation.Rehearsal.Injection
import Circulation.Rehearsal.PubSubStandIn

namespace Circulation.Rehearsal

/-- A transport that keeps what it is given, or refuses it. -/
structure Recorder where
  name : String
  published : List (String × Bytes)
  failing : Bool

namespace Recorder

/-- Nothing is published yet. -/
def fresh (name : String) : Recorder := ⟨name, [], false⟩

/-- Take a message. -/
def take (r : Recorder) (topic : String) (body : Bytes) :
    Except TransportError Unit × Recorder :=
  if r.failing then (.error (.publish (r.name ++ " rejected publish to " ++ topic)), r)
  else (.ok (), { r with published := r.published ++ [(topic, body)] })

/-- The messages on a topic, from the given place on. -/
def messagesFrom (r : Recorder) (place : Nat) (topic : String) : List Bytes :=
  ((r.published.drop place).filter (·.1 == topic)).map (·.2)

end Recorder

/-- The surroundings of a rehearsal. -/
structure World where
  desk : Desk
  /-- The clock was read when it showed nothing. -/
  clockFailed : Bool
  injection : Injection
  primary : Recorder
  fallback : Recorder
  broker : BrokerStandIn
  pubSub : PubSubStandIn
  /-- The error with which dialling fails, if it does. -/
  dialError : Option String
  /-- The endpoints that were dialled, in order. -/
  dialled : List String
  /-- The events that the application heard, in order. -/
  heard : List Event
  /-- The log, in order. -/
  notices : List (Notice × Option Span)
  /-- The correlation numbers given out, in order. -/
  issued : List String

namespace World

/-- A world in which nothing has happened. -/
def fresh (clock : Clock) (refusals : List Refusal) : World where
  desk := ⟨Register.empty, Ledger.empty, Faults.none, clock, []⟩
  clockFailed := false
  injection := Injection.none
  primary := .fresh "amqp"
  fallback := .fresh "redis"
  broker := .fresh refusals
  pubSub := .fresh
  dialError := none
  dialled := []
  heard := []
  notices := []
  issued := []

/-- A correlation number that differs from those given out before. -/
def nextId (w : World) : String :=
  Correlation.ofBits ((w.issued.length + 1) * 0x1E3779B97F4A7C15F39CC0605CEDC83 % (1 <<< 122))

/-- Answer a request. -/
def answer : Surroundings World
  | .store c, w =>
    let (a, desk) := w.injection.answer c w.desk
    (a, { w with desk })
  | .readClock, w =>
    let (now, clock) := w.desk.clock.read
    (now, { w with
      desk := { w.desk with clock }
      clockFailed := w.clockFailed || w.desk.clock.now?.isNone })
  | .freshId, w => (w.nextId, { w with issued := w.issued ++ [w.nextId] })
  | .hear e, w => ((), { w with heard := w.heard ++ [e] })
  | .send transport topic body, w =>
    if transport = w.primary.name then
      let (a, primary) := w.primary.take topic body
      (a, { w with primary })
    else
      let (a, fallback) := w.fallback.take topic body
      (a, { w with fallback })
  | .dial endpoint, w =>
    (match w.dialError with
      | some reason => .error (.connection reason)
      | none => .ok w.primary.name,
      { w with dialled := w.dialled ++ [endpoint] })
  | .broker c, w =>
    let (a, broker) := w.broker.answer c
    (a, { w with broker })
  | .pubSub c, w =>
    let (a, pubSub) := w.pubSub.answer c
    (a, { w with pubSub })
  | .note n span, w => ((), { w with notices := w.notices ++ [(n, span)] })
  | q, w =>
    let (a, desk) := Desk.answer q w.desk
    (a, { w with desk })

/-- The rehearsal cannot go on: a reading of the clock gave nothing, or the number for the next loan
does not fit in sixty-four bits. -/
def brokenOff (w : World) : Bool := w.clockFailed || !decide (Fits64 w.desk.ledger.nextId)

/-- The world with an empty log and no calls on record. -/
def clearTape (w : World) : World :=
  { w with
    notices := []
    heard := []
    broker := { w.broker with calls := [], settlements := [] }
    pubSub := { w.pubSub with calls := [] } }

end World

end Circulation.Rehearsal
