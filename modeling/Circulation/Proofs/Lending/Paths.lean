/- # Circulation.Proofs.Lending.Paths -- one way or another, it comes to the same

A command reaches the desk by a call, as a message of the fallback, or as a delivery of the durable
queue. A message that spells a command is dispatched as the call is made (`Dispatcher.dispatch_encode`),
and both loops go through their messages in rounds, so that all three leave the same desk and come to
the same dispositions (`paths_agree`).
-/
import Circulation.Proofs.Broker.Settlement
import Circulation.Proofs.Messaging.Carrier
import Circulation.Proofs.Wire.RoundTrip

namespace Circulation

/-! ## Messages and calls -/

namespace Lending.Dispatcher

/-- To dispatch the message of a command is to carry it out, with the notices marked. -/
theorem dispatch_encode (d : Dispatcher) {c : Command} (fits : c.Fits ∧ c.payload.NoZero) :
    d.dispatch c.encode = (d.handle c).within ⟨c.correlationId, c.kind⟩ := by
  rw [dispatch, Command.decode?_encode fits.1 fits.2]

theorem run_dispatch_encode (d : Dispatcher) {c : Command} (fits : c.Fits ∧ c.payload.NoZero)
    (desk : Desk) :
    (d.dispatch c.encode).run Desk.answer desk = (d.handle c).run Desk.answer desk := by
  rw [dispatch_encode d fits, run_within]

/-- The rounds over messages that spell commands are the calls, one after another. -/
theorem rounds_encode (d : Dispatcher) {cs : List Command}
    (fits : ∀ c ∈ cs, c.Fits ∧ c.payload.NoZero) (desk : Desk) :
    let messages := cs.map Command.encode
    let calls := (cs.mapM d.handle).run Desk.answer desk
    (d.rounds Desk.answer desk messages).map (Round.disposition d Desk.answer) = calls.1 ∧
      d.afterAll Desk.answer desk messages = calls.2 := by
  induction cs generalizing desk with
  | nil => exact ⟨rfl, rfl⟩
  | cons c rest ih =>
    obtain ⟨here, later⟩ := List.forall_mem_cons.mp fits
    have called := run_dispatch_encode d here desk
    obtain ⟨told, ended⟩ := ih later ((d.handle c).run Desk.answer desk).2
    intro messages calls
    have calls_ : calls = _ := Procedure.run_mapM_cons Desk.answer d.handle c rest desk
    rw [calls_]
    constructor
    · show Round.disposition d Desk.answer ⟨c.encode, desk⟩ ::
        (d.rounds Desk.answer ((d.dispatch c.encode).run Desk.answer desk).2 _).map _ = _
      rw [called, told, Round.disposition, called]
    · show d.afterAll Desk.answer ((d.dispatch c.encode).run Desk.answer desk).2 _ = _
      rw [called, ended]

end Lending.Dispatcher

/-! ## The subscriber -/

namespace PubSub

open Lending (Dispatcher Round)

variable {σ : Type} (answer : Surroundings σ)

/-- Where notices change nothing, the subscriber asks what its rounds ask, and says of each what it came
to. -/
theorem feed_rounds (quiet : ∀ n span s, (answer (.note n span) s).2 = s) (d : Dispatcher)
    (messages : List Bytes) (s : σ) :
    ((feedCommands d messages).run answer s).2 = d.afterAll answer s messages ∧
      (feedCommands d messages).asked answer s = (d.rounds answer s messages).flatMap fun r =>
        r.asked d answer ++ [.note (.commandProcessed (r.disposition d answer)) none] := by
  induction messages generalizing s with
  | nil => exact ⟨rfl, rfl⟩
  | cons body rest ih =>
    let v := (d.dispatch body).run answer s
    have fed : feedCommands d (body :: rest) = (d.dispatch body).andThen fun v =>
        .ask (.note (.commandProcessed v) none) fun _ => feedCommands d rest := rfl
    obtain ⟨ended, asked⟩ := ih v.2
    have noted := quiet (.commandProcessed v.1) none v.2
    rw [fed]
    constructor
    · rw [Procedure.run_andThen]
      show ((feedCommands d rest).run answer (answer _ v.2).2).2 = _
      rw [noted, ended]
      rfl
    · rw [Procedure.asked_andThen, Procedure.asked_ask, noted, asked]
      exact List.append_cons ..

/-- The whole subscriber: its rounds, and a notice at the end. -/
theorem receive_rounds (quiet : ∀ n span s, (answer (.note n span) s).2 = s) (d : Dispatcher)
    (messages : List Bytes) (s : σ) :
    ((receiveCommands d messages).run answer s).2 = d.afterAll answer s messages ∧
      (receiveCommands d messages).asked answer s =
        ((d.rounds answer s messages).flatMap fun r =>
          r.asked d answer ++ [.note (.commandProcessed (r.disposition d answer)) none]) ++
        [.note (.commandSubscriberStopped Topic.loanCommands) none] := by
  obtain ⟨ended, asked⟩ := feed_rounds answer quiet d messages s
  have stopped : receiveCommands d messages = (feedCommands d messages).andThen fun _ =>
      .ask (.note (.commandSubscriberStopped Topic.loanCommands) none) .done := rfl
  rw [stopped]
  constructor
  · rw [Procedure.run_andThen]
    exact (quiet _ none _).trans ended
  · rw [Procedure.asked_andThen, asked]
    rfl

/-- The subscriber settles nothing. -/
theorem unsettling_receive {d : Dispatcher}
    (sink : ∀ ev, (d.emit ev).Asks fun q => q.settlement? = none) (messages : List Bytes) :
    (receiveCommands d messages).Asks fun q => q.settlement? = none := by
  have fed : (feedCommands d messages).Asks fun q => q.settlement? = none := by
    induction messages with
    | nil => exact .done _
    | cons body rest ih =>
      exact (Dispatcher.unsettling_dispatch sink body).andThen fun _ => .ask rfl fun _ => ih
  exact fed.andThen fun _ => .ask rfl .done

end PubSub

/-! ## The consumer of an unbroken stream -/

namespace Broker

open Lending (Dispatcher EventSink Round)

/-- The deliveries of these messages, under these tags. -/
def unbroken (tags : List Nat) (bodies : List Bytes) : List StreamItem :=
  (tags.zip bodies).map fun x => .delivery x.1 x.2

theorem deliveriesOf_unbroken (tags : List Nat) (bodies : List Bytes) :
    Lending.deliveriesOf (unbroken tags bodies) = tags.zip bodies := by
  unfold unbroken
  induction tags.zip bodies with
  | nil => rfl
  | cons x rest ih => exact congrArg (x :: ·) ih

/-- Where the stream does not break, all the messages are dispatched and settled. -/
theorem consume_unbroken {σ β : Type} {emit : EventSink}
    (sink : ∀ ev, (emit ev).Asks fun q => q.isOfStream = false) (policy : RetryPolicy)
    (answer : Surroundings σ) (broker : Surroundings β) {tags : List Nat} {bodies : List Bytes}
    (each : tags.length = bodies.length) (w : σ) (b : β) :
    let d : Dispatcher := ⟨emit, policy⟩
    let whole := answer.beside Request.isOfStream broker
    let consumer := consumeCommands d (unbroken tags bodies)
    (consumer.run whole (w, b)).2.1 = d.afterAll answer w bodies ∧
      (consumer.asked whole (w, b)).filterMap Request.settlement? =
        tags.zip ((d.rounds answer w bodies).map fun r => settlementFor (r.disposition d answer)) := by
  intro d whole consumer
  have named : (tags.zip bodies).map Prod.fst = tags := List.map_fst_zip (Nat.le_of_eq each)
  have held : (tags.zip bodies).map Prod.snd = bodies := List.map_snd_zip (Nat.le_of_eq each.symm)
  obtain ⟨left_, -⟩ := consume_rounds sink policy answer broker (unbroken tags bodies) w b
  have settled := settlements_of_consume sink policy answer broker (unbroken tags bodies) w b
  simp only [deliveriesOf_unbroken, named, held] at left_ settled
  refine ⟨left_, ?_⟩
  rw [settled, List.zip_map_right]
  rfl

end Broker

/-! ## All paths -/

namespace Selector

/-- What the lines have taken when commands were published and none was dropped. -/
theorem taken_of_publishCommand {γ : Type} (primary fallback : Option String)
    (carriers : Surroundings γ) (g : γ) (cs : List Command)
    (heard : ∀ o ∈ ((cs.mapM (overLines primary fallback).publishCommand).run carriers g).1,
      o ≠ .dropped) :
    Trial.taken (((cs.mapM (overLines primary fallback).publishCommand).tape carriers g).filterMap
      Exchange.trial?) = cs.map fun c => (Topic.loanCommands, c.encode) := by
  have messages : cs.mapM (overLines primary fallback).publishCommand =
      (cs.map fun c => (Topic.loanCommands, c.encode)).mapM fun m =>
        (overLines primary fallback).publish m.1 m.2 := by
    rw [List.mapM_map]
    rfl
  rw [messages] at heard ⊢
  obtain ⟨each, taken⟩ := taken_of_publish carriers primary fallback _ g
  rw [taken, carried_of_heard each heard]

end Selector

namespace Lending

/-- Commands are carried out by calls; their messages, as the lines have taken them when they were
published, are received from the fallback; and they are delivered by the queue. Whatever the
dispositions and whatever the broker answers, the desk is left the same in all three cases. The consumer
settles each delivery as the call came out. The subscriber settles nothing and has one round for each
message, with the disposition of the call. -/
theorem paths_agree {β γ : Type} (policy : RetryPolicy) (desk : Desk)
    (primary fallback : Option String) (carriers : Surroundings γ) (g : γ) (broker : Surroundings β)
    (b : β) (tags : List Nat) (cs : List Command) (fits : ∀ c ∈ cs, c.Fits ∧ c.payload.NoZero)
    (heard : ∀ o ∈ ((cs.mapM (Selector.overLines primary fallback).publishCommand).run carriers g).1,
      o ≠ .dropped)
    (each : tags.length = cs.length) :
    let d : Dispatcher := ⟨recordingSink, policy⟩
    let published := (cs.mapM (Selector.overLines primary fallback).publishCommand).tape carriers g
    let recorded := Trial.taken (published.filterMap Exchange.trial?)
    let payloads := recorded.map Prod.snd
    let calls := (cs.mapM d.handle).run Desk.answer desk
    let subscriber := PubSub.receiveCommands d payloads
    let consumer := Broker.consumeCommands d (Broker.unbroken tags payloads)
    let queue := Desk.answer.beside Request.isOfStream broker
    let rounds := d.rounds Desk.answer desk payloads
    recorded = cs.map (fun c => (Topic.loanCommands, c.encode)) ∧
      (subscriber.run Desk.answer desk).2 = calls.2 ∧
      (consumer.run queue (desk, b)).2.1 = calls.2 ∧
      (consumer.asked queue (desk, b)).filterMap Request.settlement? =
        tags.zip (calls.1.map Broker.settlementFor) ∧
      (subscriber.asked Desk.answer desk).filterMap Request.settlement? = [] ∧
      subscriber.asked Desk.answer desk = (rounds.flatMap fun r =>
          r.asked d Desk.answer ++ [.note (.commandProcessed (r.disposition d Desk.answer)) none]) ++
        [.note (.commandSubscriberStopped Topic.loanCommands) none] ∧
      rounds.map Round.body = payloads ∧ rounds.map (Round.disposition d Desk.answer) = calls.1 := by
  intro d published recorded payloads calls subscriber consumer queue rounds
  have sink : ∀ ev, (recordingSink ev).Asks fun q => q.isOfStream = false := fun ev => .ask rfl .done
  have recorded_ : recorded = cs.map fun c => (Topic.loanCommands, c.encode) :=
    Selector.taken_of_publishCommand primary fallback carriers g cs heard
  have payloads_ : payloads = cs.map Command.encode := by
    simp only [payloads, recorded_, List.map_map, Function.comp_def]
  have each' : tags.length = payloads.length := by rw [payloads_, List.length_map, each]
  -- The rounds over the payloads are the calls; what is left is that each loop goes through its rounds.
  obtain ⟨told, ended⟩ : rounds.map (Round.disposition d Desk.answer) = calls.1 ∧
      d.afterAll Desk.answer desk payloads = calls.2 := by
    simp only [rounds, payloads_]
    exact d.rounds_encode fits desk
  obtain ⟨received, asked⟩ :=
    PubSub.receive_rounds Desk.answer (fun _ _ _ => rfl) d payloads desk
  obtain ⟨consumed, settled⟩ := Broker.consume_unbroken sink policy Desk.answer broker each' desk b
  refine ⟨recorded_, received.trans ended, consumed.trans ended, ?_, ?_, asked,
    d.map_body_rounds Desk.answer desk payloads, told⟩
  · rw [← told, List.map_map]
    exact settled
  · exact (PubSub.unsettling_receive (d := d) (fun _ => .ask rfl .done) payloads).filterMap_asked desk

/-- Two users want the copy, and the first one returns it. -/
def twoUsers : List Command :=
  [⟨.borrow, "b-7", none, ⟨some ⟨7⟩, some ⟨1⟩, none, none⟩⟩,
    ⟨.borrow, "b-8", none, ⟨some ⟨8⟩, some ⟨1⟩, some 3, none⟩⟩,
    ⟨.giveBack, "r-7", none, ⟨some ⟨7⟩, none, none, some ⟨1⟩⟩⟩]

theorem fits_twoUsers : ∀ c ∈ twoUsers, c.Fits ∧ c.payload.NoZero := by
  unfold twoUsers
  simp only [List.forall_mem_cons, List.not_mem_nil, false_imp_iff, implies_true, and_true]
  refine ⟨⟨?_, ?_⟩, ⟨?_, ?_⟩, ?_, ?_⟩ <;> constructor <;> rintro n ⟨⟩ <;> decide

/-- The second user is turned away on all paths. The primary line has refused the command, and the
fallback has taken it. -/
theorem paths_agree_twoUsers :
    let d : Dispatcher := ⟨recordingSink, .deadLetterPermanent⟩
    let published := (twoUsers.mapM (Selector.overLines "amqp" "redis").publishCommand).tape
      Line.planned [true, false, true, true]
    let payloads := (Trial.taken (published.filterMap Exchange.trial?)).map Prod.snd
    let calls := (twoUsers.mapM d.handle).run Desk.answer oneCopy
    let consumer := Broker.consumeCommands d (Broker.unbroken [4, 9, 2] payloads)
    let queue := Desk.answer.beside Request.isOfStream Desk.answer
    calls.1 = [.ack, .deadLetter, .ack] ∧
      ((PubSub.receiveCommands d payloads).run Desk.answer oneCopy).2 = calls.2 ∧
      (consumer.run queue (oneCopy, oneCopy)).2.1 = calls.2 ∧
      (consumer.asked queue (oneCopy, oneCopy)).filterMap Request.settlement? =
        [(4, .ack false), (9, .nack false false), (2, .ack false)] := by
  intro d published payloads calls consumer queue
  have came : calls.1 = [.ack, .deadLetter, .ack] := by decide +kernel
  obtain ⟨-, received, consumed, settled, -⟩ :=
    paths_agree .deadLetterPermanent oneCopy "amqp" "redis" Line.planned [true, false, true, true]
      Desk.answer oneCopy [4, 9, 2] twoUsers fits_twoUsers (by decide +kernel) rfl
  refine ⟨came, received, consumed, ?_⟩
  have settled_ : _ = [4, 9, 2].zip (calls.1.map Broker.settlementFor) := settled
  rw [came] at settled_
  exact settled_

end Lending

end Circulation
