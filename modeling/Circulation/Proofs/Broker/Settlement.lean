/- # Circulation.Proofs.Broker.Settlement -- every delivery is settled by itself

The consumer of commands works off its stream in rounds: a delivery is dispatched, and then settled as
its disposition says, before the next one is looked at. What the broker answers to a settlement decides
whether there is a complaint about it and nothing else. So the broker is taken as a far part of the
surroundings, of which nothing is assumed, and what the consumer asks, complaints left out, is written
down without it (`settled_of_stream`).
-/
import Circulation.Broker.Consumer
import Circulation.Proofs.Lending.Round
import Circulation.Proofs.Lending.Worker

namespace Circulation

open Lending (Dispatcher EventSink Round borrowMessage deliveriesOf oneCopy recordingSink returnMessage)

namespace Request

/-- The complaint that a settlement failed. -/
def isComplaint : Request → Bool
  | note (.settlementFailed _) _ => true
  | _ => false

/-- Concerns the stream and not what its messages say: a settlement, or a notice of the consumer. -/
def isOfStream : Request → Bool
  | broker (.settle ..) | note (.settlementFailed _) _ | note .commandDeliveryFailed _
  | note (.commandConsumerStopped _) _ => true
  | _ => false

theorem isOfStream_of_isOwn {q : Request} (own : q.isOwn = true) : q.isOfStream = false := by
  cases q with
  | note n s => cases n <;> first | rfl | exact absurd own Bool.false_ne_true
  | broker c => exact absurd own Bool.false_ne_true
  | _ => rfl

theorem isComplaint_of_isOfStream {q : Request} (away : q.isOfStream = false) :
    q.isComplaint = false := by
  cases q with
  | note n s => cases n <;> first | rfl | exact away
  | _ => rfl

theorem settlement?_of_isOfStream {q : Request} (away : q.isOfStream = false) :
    q.settlement? = none := by
  cases q with
  | broker c => cases c <;> first | rfl | exact absurd away.symm Bool.false_ne_true
  | _ => rfl

theorem settlement?_of_isComplaint {q : Request} (complaint : q.isComplaint = true) :
    q.settlement? = none := by
  cases q <;> first | rfl | exact absurd complaint Bool.false_ne_true

end Request

namespace Broker

variable {σ β : Type}

/-! ## Rounds of the consumer -/

/-- A delivery is dispatched and then settled, by itself. -/
def roundAsked (d : Dispatcher) (answer : Surroundings σ) (tag : Nat) (r : Round σ) : List Request :=
  r.asked d answer ++ [.broker (.settle tag (settlementFor (r.disposition d answer)))]

/-- What is asked when the stream is broken. -/
def breaking (stream : List StreamItem) : List Request :=
  if StreamItem.failure ∈ stream then [.note .commandDeliveryFailed none] else []

section Consumer

variable {emit : EventSink} (sink : ∀ ev, (emit ev).Asks fun q => q.isOfStream = false)
include sink

omit sink in
/-- No complaint is a settlement. -/
theorem filterMap_settlement_filter (asked : List Request) :
    (asked.filter (!·.isComplaint)).filterMap Request.settlement? =
      asked.filterMap Request.settlement? := by
  rw [List.filterMap_filter]
  congr
  funext q
  cases complaint : q.isComplaint with
  | false => rfl
  | true => exact (Request.settlement?_of_isComplaint complaint).symm

theorem asks_dispatch (policy : RetryPolicy) (message : Bytes) :
    (Dispatcher.dispatch ⟨emit, policy⟩ message).Asks fun q => q.isOfStream = false :=
  Dispatcher.asks_dispatch (fun _ => Request.isOfStream_of_isOwn) sink
    (fun n s s' away => by cases n <;> exact away) message

omit sink in
/-- To settle a delivery is for the broker alone. Complaints left out, it is one call, whatever the
broker answers. -/
theorem run_settle (answer : Surroundings σ) (broker : Surroundings β) (tag : Nat) (d : Disposition)
    (w : σ × β) :
    ((settle tag d).run (answer.beside Request.isOfStream broker) w).2.1 = w.1 ∧
      ((settle tag d).asked (answer.beside Request.isOfStream broker) w).filter (!·.isComplaint) =
        [.broker (.settle tag (settlementFor d))] := by
  let q : Request := .broker (.settle tag (settlementFor d))
  have asked : settle tag d = .ask q fun reply =>
      match reply with
      | .ok () => .done ()
      | .error _ => Procedure.note (.settlementFailed d) := rfl
  rw [asked, Procedure.run, Procedure.asked_ask, Surroundings.beside_far (q := q) rfl]
  cases (broker q w.2).1 with
  | ok a => exact ⟨rfl, rfl⟩
  | error cause => exact ⟨rfl, rfl⟩

/-- Complaints left out, the consumer asks what its rounds ask, up to the first failure of the stream;
and where the rounds end, it leaves the near part. -/
theorem feed_rounds (policy : RetryPolicy) (answer : Surroundings σ) (broker : Surroundings β)
    (stream : List StreamItem) (w : σ × β) :
    let d : Dispatcher := ⟨emit, policy⟩
    let whole := answer.beside Request.isOfStream broker
    let deliveries := deliveriesOf stream
    ((feedCommands d stream).run whole w).2.1 = d.afterAll answer w.1 (deliveries.map Prod.snd) ∧
      ((feedCommands d stream).asked whole w).filter (!·.isComplaint) =
        ((deliveries.map Prod.fst).zip (d.rounds answer w.1 (deliveries.map Prod.snd))).flatMap
            (fun x => roundAsked d answer x.1 x.2) ++ breaking stream := by
  intro d whole deliveries
  induction stream generalizing w with
  | nil => exact ⟨rfl, rfl⟩
  | cons item rest ih =>
    cases item with
    | failure =>
      have broken : breaking (.failure :: rest) = [.note .commandDeliveryFailed none] :=
        if_pos List.mem_cons_self
      exact ⟨rfl, by rw [broken]; rfl⟩
    | delivery tag body =>
      have same : breaking (.delivery tag body :: rest) = breaking rest := by simp [breaking]
      have here := asks_dispatch sink policy body
      have dispatched : ((d.dispatch body).asked answer w.1).filter (!·.isComplaint) =
          (d.dispatch body).asked answer w.1 := by
        refine List.filter_eq_self.mpr fun q mem => ?_
        rw [Request.isComplaint_of_isOfStream (here.of_mem_asked _ mem)]
        rfl
      -- First the dispatch, which the broker has no part in, then the settlement.
      let v := ((d.dispatch body).run answer w.1).1
      let w₁ : σ × β := (((d.dispatch body).run answer w.1).2, w.2)
      let w₂ := ((settle tag v).run whole w₁).2
      obtain ⟨left_, settled⟩ := run_settle answer broker tag v w₁
      obtain ⟨ended, asked⟩ := ih w₂
      have fed : feedCommands d (.delivery tag body :: rest) =
          (d.dispatch body).andThen fun v => (settle tag v).andThen fun _ => feedCommands d rest := rfl
      have apart : (d.dispatch body).asked whole w = (d.dispatch body).asked answer w.1 :=
        congrArg (List.map _) (Procedure.tape_beside here w)
      rw [left_] at ended asked
      rw [fed, same]
      constructor
      · rw [Procedure.run_andThen, Procedure.run_beside here, Procedure.run_andThen]
        exact ended
      · have later : ((feedCommands d rest).asked whole w₂).filter (!·.isComplaint) = _ := asked
        have whole_ : ((d.dispatch body).andThen fun v => (settle tag v).andThen fun _ =>
            feedCommands d rest).asked whole w = (d.dispatch body).asked answer w.1 ++
              ((settle tag v).asked whole w₁ ++ (feedCommands d rest).asked whole w₂) := by
          rw [Procedure.asked_andThen, Procedure.run_beside here, apart, Procedure.asked_andThen]
        rw [whole_, List.filter_append, List.filter_append, dispatched, settled, later,
          ← List.append_assoc, ← List.append_assoc]
        rfl

/-- The whole consumer: its rounds, and two notices that are for the stream. -/
theorem consume_rounds (policy : RetryPolicy) (answer : Surroundings σ) (broker : Surroundings β)
    (stream : List StreamItem) (w : σ) (b : β) :
    let d : Dispatcher := ⟨emit, policy⟩
    let whole := answer.beside Request.isOfStream broker
    let deliveries := deliveriesOf stream
    ((consumeCommands d stream).run whole (w, b)).2.1 =
        d.afterAll answer w (deliveries.map Prod.snd) ∧
      ((consumeCommands d stream).asked whole (w, b)).filter (!·.isComplaint) =
        ((deliveries.map Prod.fst).zip (d.rounds answer w (deliveries.map Prod.snd))).flatMap
            (fun x => roundAsked d answer x.1 x.2) ++
          (breaking stream ++ [.note (.commandConsumerStopped Topic.loanCommands) none]) := by
  intro d whole deliveries
  obtain ⟨ended, fed⟩ := feed_rounds sink policy answer broker stream (w, b)
  have stopped : consumeCommands d stream = (feedCommands d stream).andThen fun _ =>
      .ask (.note (.commandConsumerStopped Topic.loanCommands) none) .done := rfl
  rw [stopped]
  constructor
  · rw [Procedure.run_andThen]
    exact ended
  · rw [Procedure.asked_andThen, List.filter_append, fed, List.append_assoc]
    rfl

/-- Of what a round asks, one thing is a settlement. -/
theorem settlement_of_round (policy : RetryPolicy) (answer : Surroundings σ) (tag : Nat) (r : Round σ) :
    let d : Dispatcher := ⟨emit, policy⟩
    (roundAsked d answer tag r).filterMap Request.settlement? =
      [(tag, settlementFor (r.disposition d answer))] := by
  intro d
  have none_ := (asks_dispatch sink policy r.body).mono fun q =>
    Request.settlement?_of_isOfStream (q := q)
  rw [roundAsked, List.filterMap_append, Round.asked, none_.filterMap_asked]
  rfl

/-- The consumer asks for one settlement for each of its rounds. -/
theorem settlements_of_consume (policy : RetryPolicy) (answer : Surroundings σ)
    (broker : Surroundings β) (stream : List StreamItem) (w : σ) (b : β) :
    let d : Dispatcher := ⟨emit, policy⟩
    let whole := answer.beside Request.isOfStream broker
    let deliveries := deliveriesOf stream
    ((consumeCommands d stream).asked whole (w, b)).filterMap Request.settlement? =
      ((deliveries.map Prod.fst).zip (d.rounds answer w (deliveries.map Prod.snd))).map
        fun x => (x.1, settlementFor (x.2.disposition d answer)) := by
  intro d whole deliveries
  obtain ⟨-, told⟩ := consume_rounds sink policy answer broker stream w b
  have rest : (breaking stream ++ [Request.note (.commandConsumerStopped Topic.loanCommands)
      none]).filterMap Request.settlement? = [] := by
    unfold breaking
    split <;> rfl
  have each (x : Nat × Round σ) := settlement_of_round sink policy answer x.1 x.2
  let rounds := (deliveries.map Prod.fst).zip (d.rounds answer w (deliveries.map Prod.snd))
  calc ((consumeCommands d stream).asked whole (w, b)).filterMap Request.settlement?
      = (rounds.flatMap fun x => roundAsked d answer x.1 x.2).filterMap Request.settlement? := by
        rw [← filterMap_settlement_filter, told, List.filterMap_append, rest, List.append_nil]
    _ = rounds.flatMap fun x => (roundAsked d answer x.1 x.2).filterMap Request.settlement? :=
        List.filterMap_flatMap
    _ = rounds.flatMap fun x => [(x.1, settlementFor (x.2.disposition d answer))] :=
        congrArg rounds.flatMap (funext each)
    _ = rounds.map fun x => (x.1, settlementFor (x.2.disposition d answer)) :=
        List.map_eq_flatMap.symm

/-- Whatever the stream, the surroundings and the answers of the broker: the consumer dispatches the
deliveries before the first failure of the stream, each where the one before it has left off, and asks
for one settlement of each between its dispatch and the next one, for it alone and as its disposition
says. The surroundings are left where the dispatches lead. -/
theorem settled_of_stream (policy : RetryPolicy) (answer : Surroundings σ) (broker : Surroundings β)
    (stream : List StreamItem) (w : σ) (b : β) :
    let d : Dispatcher := ⟨emit, policy⟩
    let whole := answer.beside Request.isOfStream broker
    let deliveries := deliveriesOf stream
    let rounds := (deliveries.map Prod.fst).zip (d.rounds answer w (deliveries.map Prod.snd))
    let asked := (consumeCommands d stream).asked whole (w, b)
    rounds.map (fun x => (x.1, x.2.body)) = deliveries ∧
      asked.filter (!·.isComplaint) = rounds.flatMap (fun x => roundAsked d answer x.1 x.2) ++
        (breaking stream ++ [.note (.commandConsumerStopped Topic.loanCommands) none]) ∧
      asked.filterMap Request.settlement? =
        rounds.map (fun x => (x.1, settlementFor (x.2.disposition d answer))) ∧
      (settlementFor .ack = .ack false ∧ settlementFor .requeue = .nack false true ∧
        settlementFor .deadLetter = .nack false false) ∧
      ((consumeCommands d stream).run whole (w, b)).2.1 =
        d.afterAll answer w (deliveries.map Prod.snd) := by
  intro d whole deliveries rounds asked
  obtain ⟨ended, told⟩ := consume_rounds sink policy answer broker stream w b
  refine ⟨?_, told, settlements_of_consume sink policy answer broker stream w b, ⟨rfl, rfl, rfl⟩, ended⟩
  have bodies := d.map_body_rounds answer w (deliveries.map Prod.snd)
  calc rounds.map (fun x => (x.1, x.2.body))
      = (deliveries.map Prod.fst).zip
          ((d.rounds answer w (deliveries.map Prod.snd)).map Round.body) := List.zip_map_right.symm
    _ = deliveries := by rw [bodies, ← List.zip_of_prod rfl rfl]

end Consumer

/-- The copy is borrowed twice, with no command in between, and then the stream breaks. -/
def brokenStream : List StreamItem :=
  [.delivery 4 borrowMessage.message, .delivery 9 [], .delivery 4 borrowMessage.message, .failure,
    .delivery 5 returnMessage.message]

/-- A broker that refuses every settlement is asked for each of the three, and the fourth message is not
dispatched. -/
theorem settled_of_stream_refused :
    let d : Dispatcher := ⟨recordingSink, .deadLetterPermanent⟩
    let whole := Desk.answer.beside Request.isOfStream Desk.answer
    let rounds := [4, 9, 4].zip (d.rounds Desk.answer oneCopy
      [borrowMessage.message, [], borrowMessage.message])
    let asked := (consumeCommands d brokenStream).asked whole (oneCopy, oneCopy)
    (∀ ev, (recordingSink ev).Asks fun q => q.isOfStream = false) ∧
      asked.filterMap Request.settlement? = [(4, .ack false), (9, .ack false), (4, .nack false false)] ∧
      asked.filter (!·.isComplaint) = rounds.flatMap (fun x => roundAsked d Desk.answer x.1 x.2) ++
        [.note .commandDeliveryFailed none,
          .note (.commandConsumerStopped Topic.loanCommands) none] := by
  intro d whole rounds asked
  have sink : ∀ ev, (recordingSink ev).Asks fun q => q.isOfStream = false := fun ev => .ask rfl .done
  obtain ⟨-, told, -⟩ := settled_of_stream sink .deadLetterPermanent Desk.answer Desk.answer
    brokenStream oneCopy oneCopy
  exact ⟨sink, by decide +kernel, told⟩

end Broker

end Circulation
