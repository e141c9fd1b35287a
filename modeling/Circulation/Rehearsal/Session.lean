/- # Circulation.Rehearsal.Session -- running a rehearsal

A session is a world together with what the library keeps between steps: the transports found at the
start, the consumers that are running, and how far each transport has been read. `Session.step`
runs one step; what became new in the world during the step is read off by comparing the two
sessions.
-/
import Circulation.Broker.Consumer
import Circulation.Messaging.Publisher
import Circulation.Pool
import Circulation.PubSub.Client
import Circulation.Rehearsal.Script

namespace Circulation.Rehearsal

open Lending (Dispatcher EventSink)

/-! ## Sessions -/

/-- A consumer by what it consumes. -/
inductive ConsumerKind where
  | commands
  | events
deriving DecidableEq

/-- How far the messages of a transport have been read. -/
structure Progress where
  consumed : Nat
  listened : Nat

/-- A rehearsal under way. -/
structure Session where
  world : World
  policy : RetryPolicy
  /-- Events are published, not just recorded. -/
  publishing : Bool
  selector : Selector
  link : Option Broker.Link
  /-- There is a connection to the publish/subscribe server. -/
  subscribable : Bool
  /-- The broker's running consumers, in the order of their start. -/
  consumers : List ConsumerKind
  /-- How many consumers have ended that nobody has asked for. -/
  ended : Nat
  primaryProgress : Progress
  fallbackProgress : Progress

namespace Session

/-- A session over these transports. -/
def ofSelector (world : World) (policy : RetryPolicy) (publishing : Bool) (selector : Selector)
    (link : Option Broker.Link) (subscribable : Bool) : Session :=
  ⟨world, policy, publishing, selector, link, subscribable, [], 0, ⟨0, 0⟩, ⟨0, 0⟩⟩

/-- A session with transports that keep their messages. -/
def recording (clock : Clock) (policy : RetryPolicy) (publishing primary fallback : Bool) :
    Session :=
  let world := World.fresh clock []
  let transport (there : Bool) (r : Recorder) : Option Transport :=
    if there then some (.named r.name) else none
  ofSelector world policy publishing
    ⟨transport primary world.primary, transport fallback world.fallback⟩ none false

/-- How a session over a broker and a publish/subscribe server begins: with or without an address
for each. -/
structure LiveStart where
  brokerUrl : Option String
  refusals : List Refusal
  pubSubUrl : Option String

/-- The session, and how connecting to the publish/subscribe server went if it was tried. -/
def live (clock : Clock) (policy : RetryPolicy) (publishing : Bool) (start : LiveStart) :
    Option (Except TransportError Unit) × Session :=
  let world := World.fresh clock start.refusals
  let (pubSub, world) : Option (Except TransportError Unit) × World :=
    match start.pubSubUrl with
    | none => (none, world)
    | some url =>
      let (r, world) := (PubSub.connect url).run.run World.answer world
      (some r, world)
  let fallback := match pubSub with
    | some (.ok ()) => some PubSub.transport
    | _ => none
  let connect := fun url => (Broker.Link.connect url).run
  let ((selector, link), world) :=
    (Selector.establish start.brokerUrl connect Broker.Link.transport fallback).run
      World.answer world
  (pubSub, ofSelector world policy publishing selector link fallback.isSome)

/-! ## Parts of the library in use -/

/-- Run a procedure in the session's world. -/
def run {α : Type} (s : Session) (p : Procedure α) : α × Session :=
  let (a, world) := p.run World.answer s.world
  (a, { s with world })

/-- Where events go. -/
def emit (s : Session) : EventSink :=
  if s.publishing then s.selector.eventSink else Lending.recordingSink

def dispatcher (s : Session) : Dispatcher := ⟨s.emit, s.policy⟩

/-- Run a procedure and put its result in the terms of the rehearsal. -/
def runTo {α : Type} (s : Session) (f : α → Result) (p : Procedure α) : Result × Session :=
  let (a, s) := s.run p
  (f a, s)

/-- Run a procedure that depends on the command in a message. -/
def onCommand (s : Session) (message : Bytes) (f : Command → Procedure Result) :
    Result × Session :=
  match Command.decode? message with
  | none => (.undecodable, s)
  | some c => s.run (f c)

/-- Run a procedure that depends on the event in a message. -/
def onEvent (s : Session) (message : Bytes) (f : Event → Procedure Result) : Result × Session :=
  match Event.decode? message with
  | none => (.undecodable, s)
  | some e => s.run (f e)

/-- Carry out a command, whatever its kind, as one to borrow. -/
def borrowing (s : Session) (c : Command) : Procedure Result := do
  return .ofBorrow (← (Lending.borrow s.emit c).run)

/-- Carry out a command, whatever its kind, as one to return. -/
def returning (s : Session) (c : Command) : Procedure Result := do
  return .ofGiveBack (← (Lending.giveBack s.emit c).run)

/-- Run procedures side by side on the gate. They come to it in their order. -/
def sideBySide (s : Session) (procedures : List (Procedure Result)) : Result × Session :=
  let pool := (Pool.start s.world procedures).runInOrder World.answer
  (.sideBySide (pool.results.map fun r => r.getD .nothing), { s with world := pool.world })

/-! ## Reading transports -/

/-- The transport on a side that keeps its messages. -/
def recorder (s : Session) : Side → Recorder
  | .primary => s.world.primary
  | .fallback => s.world.fallback

def progress (s : Session) : Side → Progress
  | .primary => s.primaryProgress
  | .fallback => s.fallbackProgress

def setProgress (s : Session) (side : Side) (p : Progress) : Session :=
  match side with
  | .primary => { s with primaryProgress := p }
  | .fallback => { s with fallbackProgress := p }

/-- Dispatch the commands that came on a side since the last time. -/
def consume (s : Session) (side : Side) : Result × Session :=
  let r := s.recorder side
  let messages := r.messagesFrom (s.progress side).consumed Topic.loanCommands
  let s := s.setProgress side { s.progress side with consumed := r.published.length }
  s.runTo .dispositions (messages.mapM s.dispatcher.dispatch)

/-- Listen to the events that came on a side since the last time. -/
def listen (s : Session) (side : Side) : Result × Session :=
  let r := s.recorder side
  let messages := r.messagesFrom (s.progress side).listened Topic.loanEvents
  let s := s.setProgress side { s.progress side with listened := r.published.length }
  let (delivered, s) := s.run (messages.mapM Listener.application.deliver)
  (.listened delivered s.world.heard, s)

/-! ## The broker -/

/-- What needs a connection to the broker. -/
def onBroker (s : Session) (f : Broker.Link → Result × Session) : Result × Session :=
  match s.link with
  | none => (.noTransport, s)
  | some link => f link

/-- The broker's consumer over a stream that ends. -/
def consumerTo (s : Session) (kind : ConsumerKind) (stream : List Broker.StreamItem) :
    Procedure Unit :=
  match kind with
  | .commands => Broker.consumeCommands s.dispatcher stream
  | .events => Broker.consumeEvents Listener.applicationLogging stream

/-- Deliveries of messages, numbered. -/
def deliveries (messages : List Bytes) : List Broker.StreamItem :=
  messages.mapIdx fun i message => .delivery (i + 1) message

/-- The running consumers come to the end of their streams. The stream of the latest consumer of
commands begins with deliveries of its own; all streams end in the same way. -/
def endConsumers (s : Session) (latest ending : List Broker.StreamItem) : Session :=
  let (_, s') := s.run ((streams latest ending s.consumers).forM fun (kind, stream) =>
    s.consumerTo kind stream)
  { s' with consumers := [], ended := s.ended + s.consumers.length }
where
  /-- The streams of consumers in the order of their start. -/
  streams (latest ending : List Broker.StreamItem) :
      List ConsumerKind → List (ConsumerKind × List Broker.StreamItem)
    | [] => []
    | .commands :: rest =>
      (.commands, if rest.contains .commands then ending else latest ++ ending) ::
        streams latest ending rest
    | .events :: rest => (.events, ending) :: streams latest ending rest

/-- Say how many consumers have ended that nobody had asked for. -/
def countEnded (s : Session) : Result × Session := (.ended s.ended, { s with ended := 0 })

/-- Start a consumer. If the broker closes the connection over it, the others break off. -/
def startConsumer (s : Session) (kind : ConsumerKind)
    (p : Attempt TransportError Broker.Channel) : Result × Session :=
  let (r, s) := s.run p.run
  let s := match r with
    | .ok _ => { s with consumers := s.consumers ++ [kind] }
    | .error _ => if s.world.broker.connected then s else s.endConsumers [] [.failure]
  (.transport (r.map fun _ => ()), s)

/-- Deliver messages to the consumer of commands. -/
def brokerDeliver (s : Session) (messages : List Bytes) : Result × Session :=
  if s.consumers.contains .commands then
    let (_, s) := s.run (Broker.feedCommands s.dispatcher (deliveries messages))
    (.settlements s.world.broker.settlements, s)
  else (.noConsumer, s)

/-- Deliver messages to the consumer of events. -/
def brokerDeliverEvents (s : Session) (messages : List Bytes) : Result × Session :=
  if s.consumers.contains .events then
    let (_, s) := s.run (Broker.feedEvents Listener.applicationLogging (deliveries messages))
    (.handled s.world.heard, s)
  else (.noConsumer, s)

/-- Close the connection to the broker. -/
def brokerClose (s : Session) : Result × Session :=
  let (_, s) := s.run Broker.Link.close
  (s.endConsumers [] []).countEnded

/-- The broker closes the connection. A message that was delivered just before is still worked
off. -/
def brokerDrop (s : Session) (message : Option Bytes) : Result × Session :=
  let world := { s.world with broker := { s.world.broker with connected := false } }
  ({ s with world }.endConsumers (deliveries message.toList) [.failure]).countEnded

/-! ## The publish/subscribe server -/

/-- What needs a connection to the publish/subscribe server. -/
def onPubSub (s : Session) (f : Unit → Result × Session) : Result × Session :=
  if s.subscribable then f () else (.noTransport, s)

/-- The subscriber of a channel over all its messages. -/
def subscriberTo (s : Session) (channel : String) (messages : List Bytes) : Procedure Unit :=
  if channel = Topic.loanCommands then PubSub.receiveCommands s.dispatcher messages
  else PubSub.receiveEvents Listener.applicationLogging messages

/-- Push messages to the subscriber of a channel, and end its connection; of two on one channel only
the later one gets them. -/
def pubSubPush (s : Session) (channel : String) (messages : List Bytes) : Result × Session :=
  if s.world.pubSub.subscribed.contains channel then
    let (_, s) := s.run (s.subscriberTo channel messages)
    let world := { s.world with pubSub := s.world.pubSub.unsubscribe channel }
    (.pushed world.heard, { s with world })
  else (.noSubscriber, s)

/-! ## Setting the scene -/

/-- The world changes by itself. -/
def change (s : Session) (f : World → World) : Result × Session :=
  (.nothing, { s with world := f s.world })

/-- The desk changes by itself. -/
def changeDesk (s : Session) (f : Desk → Desk) : Result × Session :=
  s.change fun w => { w with desk := f w.desk }

/-- Switch something on or off. -/
def switchTo (on : Bool) (w : World) : Switch → World
  | .failReads => faults w fun f => { f with failReads := on }
  | .failUpdates => faults w fun f => { f with failUpdates := on }
  | .failCreates => faults w fun f => { f with failCreates := on }
  | .loseNextReturn => faults w fun f => { f with loseNextReturn := on }
  | .failPrimary => { w with primary := { w.primary with failing := on } }
  | .failFallback => { w with fallback := { w.fallback with failing := on } }
where
  /-- Change the faults of the desk. -/
  faults (w : World) (f : Faults → Faults) : World :=
    { w with desk := { w.desk with faults := f w.desk.faults } }

/-! ## Steps -/

/-- Make a new command. -/
def NewCommand.make : NewCommand → Procedure Command
  | .borrow user book days => Command.newBorrow user book days
  | .giveBack user loan => Command.newGiveBack user loan

/-- Store a loan that is opened now. -/
def creating (user : UserId) (book : BookId) (days : Option Int) : Procedure Result := do
  let now ← Procedure.readClock
  match LoanDraft.open? user book days now with
  | .error e => return .outOfRange e.days
  | .ok draft => calling (.createLoan draft)
where
  /-- Ask the stores. -/
  calling (c : StoreCall) : Procedure Result := do
    return .ofStore c (← Procedure.request (.store c))

/-- Settle a loan now. -/
def marking (loan : LoanId) (user : UserId) : Procedure Result := do
  let now ← Procedure.readClock
  creating.calling (.markReturned loan user now)

/-- Run a step on a tape that was cleared. -/
def perform (s : Session) : Step → Result × Session
  | .pause => (.nothing, s)
  | .addBook book => s.changeDesk fun d => { d with shelf := d.shelf.put book }
  | .insertLoan loan => s.changeDesk fun d => { d with ledger := d.ledger.insert loan }
  | .setClock clock => s.changeDesk fun d => { d with clock }
  | .switch which on => s.change fun w => switchTo on w which
  | .inject point text => s.change fun w => { w with injection := w.injection.set point text }
  | .rejectSaves on =>
    s.change fun w => { w with injection := { w.injection with rejectSaves := on } }
  | .dispatch message => s.runTo .disposition (s.dispatcher.dispatch message)
  | .handle message => s.onCommand message fun c => do
    return .disposition (← s.dispatcher.handle c)
  | .borrow message => s.onCommand message s.borrowing
  | .giveBack message => s.onCommand message s.returning
  | .concurrent messages => s.sideBySide ((messages.filterMap Command.decode?).map fun c =>
      if c.kind = .borrow then s.borrowing c else s.returning c)
  | .concurrentDispatch messages => s.sideBySide (messages.map fun message => do
      return .disposition (← s.dispatcher.dispatch message))
  | .publish topic body => s.runTo .outcome (s.selector.publish topic body)
  | .publishCommand message => s.onCommand message fun c => do
    return .outcome (← s.selector.publishCommand c)
  | .publishEvent message => s.onEvent message fun e => do
    return .outcome (← s.selector.publishEvent e)
  | .publishNew new => s.run do
    let c ← NewCommand.make new
    return .outcome (← s.selector.publishCommand c)
  | .emit message => s.onEvent message fun e => do
    s.emit e
    return .nothing
  | .consume side => s.consume side
  | .listen side => s.listen side
  | .deliver message => s.runTo .delivered (Listener.logging.deliver message)
  | .callStore call => s.run (creating.calling call)
  | .createLoan user book days => s.run (creating user book days)
  | .markReturned loan user => s.run (marking loan user)
  | .brokerRefuse refusal => s.change fun w =>
    { w with broker := { w.broker with refusals := w.broker.refusals ++ [refusal] } }
  | .brokerConfirm mode => s.change fun w => { w with broker := { w.broker with confirms := mode } }
  | .brokerPublish topic body =>
    s.onBroker fun link => s.runTo .transport (link.publish topic body).run
  | .brokerCommands prefetch =>
    s.onBroker fun _ => s.startConsumer .commands (Broker.startCommandConsumer prefetch)
  | .brokerEvents => s.onBroker fun _ => s.startConsumer .events Broker.startEventConsumer
  | .brokerDeliver messages => s.brokerDeliver messages
  | .brokerDeliverEvents messages => s.brokerDeliverEvents messages
  | .brokerClose => s.onBroker fun _ => s.brokerClose
  | .brokerDrop message => s.onBroker fun _ => s.brokerDrop message
  | .pubSubPublish topic body =>
    s.onPubSub fun _ => s.runTo .transport (PubSub.publish topic body).run
  | .pubSubReceivers count =>
    s.change fun w => { w with pubSub := { w.pubSub with receivers := count } }
  | .pubSubFail .publish fault =>
    s.change fun w => { w with pubSub := { w.pubSub with publishFault := fault } }
  | .pubSubFail .subscribe fault =>
    s.change fun w => { w with pubSub := { w.pubSub with subscribeFault := fault } }
  | .pubSubCommands =>
    s.onPubSub fun _ => s.runTo .transport PubSub.startCommandSubscriber.run
  | .pubSubEvents => s.onPubSub fun _ => s.runTo .transport PubSub.startEventSubscriber.run
  | .pubSubDown => s.change fun w => { w with pubSub := { w.pubSub with down := true } }
  | .pubSubPush channel messages => s.pubSubPush channel messages

/-- Run a step. -/
def step (s : Session) (step : Step) : Result × Session :=
  perform { s with world := s.world.clearTape } step

end Session

end Circulation.Rehearsal
