/- # Circulation.Proofs.Lending.Drain -- where nothing fails nothing comes again

Calls, dispatched messages, consumers and subscribers share one gate and stores that do not fail. Then
no command fails for another write that came first, for a book that was gone, or for a store, in whatever
order the requests are asked, whoever is given up and however often a command is there; and where
permanent failures are set aside, nothing is put back into its queue. So the consumer of a durable queue
asks for one settlement for good for each delivery, and the queue, which holds any messages at all, has
made as many deliveries as it had messages when it holds none any more (`drained_of_run`).
-/
import Circulation.Proofs.Lending.Worker

namespace Circulation.Lending

open Broker (Queue Settlement StreamItem)

variable {σ : Type}

/-! ## Settlements in a run -/

/-- The settlements that the worker at a place has asked for. -/
def settledBy (h : List (Happening σ)) (i : Nat) : List (Nat × Settlement) :=
  (Pool.asksOf h i).filterMap Request.settlement?

/-- What a worker has settled and what it will settle is together what it had to settle. -/
theorem settledBy_of_run {α : Type} (answer : Surroundings σ) {p : Pool σ α} {i : Nat} {due : List Nat}
    {rest : Procedure α} (here : p.left? i = some rest) (settling : Settling due rest)
    (schedule : List (Pool.Move σ)) :
    ∃ later rest', Settling later rest' ∧
      (settledBy (p.history answer schedule) i).map Prod.fst ++ later = due ∧
      ∀ r, (p.run answer schedule).left? i = some r → r = rest' := by
  let Owes (asked : List Request) (rest : Procedure α) : Prop :=
    ∃ later, Settling later rest ∧ (asked.filterMap Request.settlement?).map Prod.fst ++ later = due
  have owes_ask : ∀ {asked : List Request} {q : Request} {next : q.Answer → Procedure α},
      Owes asked (.ask q next) → ∀ a, Owes (asked ++ if q.isGate then [] else [q]) (next a) := by
    rintro asked q next ⟨later, settling, whole⟩ a
    cases settling with
    | @ask _ later _ _ now rest =>
      refine ⟨later, rest a, ?_⟩
      have settled : (if q.isGate then [] else [q]).filterMap Request.settlement? =
          q.settlement?.toList := by
        cases gate : q.isGate with
        | true => rw [Request.settlement?_of_isGate gate]; rfl
        | false => cases settles : q.settlement? <;> simp [settles]
      rw [List.filterMap_append, settled, List.map_append, List.append_assoc, ← whole, now]
      cases q.settlement? <;> rfl
  have begun : Owes [] rest := ⟨due, settling, rfl⟩
  obtain ⟨rest', ⟨later, settling', whole⟩, onward⟩ := Pool.thread_of_run (P := Owes) owes_ask begun
    (fun r left_ => (Option.some.inj (here.symm.trans left_)).symm) schedule
  exact ⟨later, rest', settling', whole, onward⟩

/-! ## Queues that are drained -/

/-- What a consumer of this stream, that has asked for these settlements so far, is to a queue whose
deliveries make up the stream. -/
structure Drains (stream : List StreamItem) (told : List (Nat × Settlement)) (ended : Prop) : Prop where
  /-- Each settlement acknowledges its message, or sets it aside. -/
  final : ∀ x ∈ told, x.2 = .ack false ∨ x.2 = .nack false false
  /-- Deliveries are settled in their order, each once. -/
  order : told.map Prod.fst <+: (deliveriesOf stream).map Prod.fst
  /-- No message was delivered twice. -/
  once : ∀ (messages : List Bytes) (q : Queue), q.Serves messages (deliveriesOf stream) told →
    ((deliveriesOf stream).map Prod.snd ++ q.ready).Perm messages
  bounded : ∀ (messages : List Bytes) (q : Queue), q.Serves messages (deliveriesOf stream) told →
    (deliveriesOf stream).length ≤ messages.length
  /-- In the end every delivery is settled. -/
  complete : ended → told.map Prod.fst = (deliveriesOf stream).map Prod.fst
  /-- In the end a queue that has nothing to deliver any more holds nothing at all, and has made as many
  deliveries as it had messages. -/
  drained : ended → ∀ (messages : List Bytes) (q : Queue),
    q.Serves messages (deliveriesOf stream) told → q.ready = [] →
      q.unsettled = [] ∧ (deliveriesOf stream).length = messages.length
  /-- And there is such a queue. -/
  possible : ended →
    (⟨[], []⟩ : Queue).Serves ((deliveriesOf stream).map Prod.snd) (deliveriesOf stream) told

/-- To settle all deliveries for good, each once and in their order, is to drain the queue. -/
theorem Drains.of_settled {stream : List StreamItem} {told : List (Nat × Settlement)} {ended : Prop}
    {later : List Nat} (final : ∀ x ∈ told, x.2.Final)
    (whole : told.map Prod.fst ++ later = (deliveriesOf stream).map Prod.fst)
    (paid : ended → later = []) : Drains stream told ended := by
  have once : ∀ (messages : List Bytes) (q : Queue), q.Serves messages (deliveriesOf stream) told →
      ((deliveriesOf stream).map Prod.snd ++ q.ready).Perm messages :=
    fun _ _ served => (served.balance final).1
  have counted {messages : List Bytes} {q : Queue}
      (served : q.Serves messages (deliveriesOf stream) told) :
      (deliveriesOf stream).length + q.ready.length = messages.length := by
    have length := (once messages q served).length_eq
    rwa [List.length_append, List.length_map] at length
  have complete (at_end : ended) : told.map Prod.fst = (deliveriesOf stream).map Prod.fst := by
    rw [paid at_end, List.append_nil] at whole
    exact whole
  refine ⟨final, ⟨later, whole⟩, once, fun messages q served => ?_, complete,
    fun at_end messages q served idle => ?_, fun at_end => ?_⟩
  · have := counted served
    omega
  · have ready := counted served
    have settled := congrArg List.length (complete at_end)
    have unsettled := (served.balance final).2
    rw [idle, List.length_nil, Nat.add_zero] at ready
    rw [List.length_map, List.length_map] at settled
    exact ⟨List.eq_nil_of_length_eq_zero (by omega), ready⟩
  · exact Broker.Queue.serves_inTurn final (complete at_end)

section Runs

variable {answer : Surroundings σ} {desk : σ → Desk} {calm : σ → Prop} {emit : EventSink}
  {workers : List Worker} {w : σ} {schedule : List (Pool.Move σ)}

/-- Workers side by side. -/
def workerPool (emit : EventSink) (workers : List Worker) (w : σ) : Pool σ Report :=
  Pool.start w (workers.map (·.procedure emit))

/-- The policy of the worker at a place. -/
def policyAt (workers : List Worker) (i : Nat) : Option RetryPolicy := workers[i]?.bind Worker.policy?

theorem routine_workers (sink : ∀ ev, Discreet (emit ev)) (workers : List Worker) (i : Nat)
    (r : Procedure Report) (here : (workers.map (·.procedure emit))[i]? = some r) :
    Routine (Mild (policyAt workers i)) (Worker.Contents (policyAt workers i)) r := by
  obtain ⟨worker, named, rfl⟩ := Option.map_eq_some_iff.mp ((List.getElem?_map ..).symm.trans here)
  rw [policyAt, named]
  exact worker.routine sink

/-- A consumer that sets permanent failures aside drains its queue. -/
theorem drains_of_run (hosts : Hosts answer desk calm) (sink : ∀ ev, Discreet (emit ev)) (begun : calm w)
    (any : ∀ m ∈ schedule, Undisturbing desk calm m) {i : Nat} {stream : List StreamItem}
    (here : workers[i]? = some (.consumer .deadLetterPermanent stream)) :
    Drains stream (settledBy ((workerPool emit workers w).history answer schedule) i)
      (((workerPool emit workers w).run answer schedule).AtRest ∧ ∀ m ∈ schedule, m ≠ .drop i) := by
  have routine := routine_workers sink workers
  have listed : (workers.map (·.procedure emit))[i]? =
      some ((Worker.consumer .deadLetterPermanent stream).procedure emit) := by
    rw [List.getElem?_map, here]
    rfl
  have begins : (workerPool emit workers w).left? i =
      some ((Worker.consumer .deadLetterPermanent stream).procedure emit) := by
    refine Pool.left?_of_ready ?_
    show ((workers.map (·.procedure emit)).map Task.ready)[i]? = _
    rw [List.getElem?_map, listed]
    rfl
  obtain ⟨later, rest, settling, whole, onward⟩ := settledBy_of_run answer begins
    (Worker.settling_consumer sink .deadLetterPermanent stream) schedule
  refine .of_settled (fun x mem => ?_) whole fun ⟨atRest, kept⟩ => ?_
  · -- Whatever the consumer asks for is mild, and so is what it settles.
    obtain ⟨q, asked, settles⟩ := List.mem_filterMap.mp mem
    have mild := (hosts.routine_of_run begun (fun _ _ => mild_of_isSober) routine any).1 i q asked
    rw [policyAt, here] at mild
    cases q with
    | broker c =>
      cases c with
      | settle tag s =>
        cases settles
        exact mild rfl
      | _ => cases settles
    | _ => cases settles
  · obtain ⟨lt, -⟩ := List.getElem?_eq_some_iff.mp listed
    obtain ⟨a, ended⟩ :=
      (hosts.discipline_start begun routine).result_of_atRest any kept atRest lt
    cases onward _ (Pool.left?_of_ready (Pool.results_eq_some_iff.mp ended))
    cases settling
    rfl

/-- Among surroundings whose stores do not fail, whatever the schedule, whatever the messages hold and
whoever is given up: no call fails with a failure that another try could mend, nor does a command of a
message; where permanent failures are set aside no message is put back; and a consumer that does so drains
its queue. No run goes on for ever, and any can be brought to rest. -/
theorem drained_of_run (hosts : Hosts answer desk calm) (sink : ∀ ev, Discreet (emit ev))
    (workers : List Worker) (begun : calm w) (any : ∀ m ∈ schedule, Undisturbing desk calm m) :
    let start := workerPool emit workers w
    let p := start.run answer schedule
    let h := start.history answer schedule
    (∀ (i : Nat) (f : Failure), p.results[i]? = some (some (.served (.error f))) → f.Steady) ∧
    (∀ (i : Nat) (f : Failure) (d : Disposition) (s : Option Span),
      .note (.commandFailed f d) s ∈ Pool.asksOf h i → f.Steady) ∧
    (∀ (i : Nat) (worker : Worker), workers[i]? = some worker →
      worker.policy? = some .deadLetterPermanent →
        p.results[i]? ≠ some (some (.answered .requeue)) ∧
        (∀ f s, .note (.commandFailed f .requeue) s ∉ Pool.asksOf h i) ∧
        ∀ s, .note (.commandProcessed .requeue) s ∉ Pool.asksOf h i) ∧
    (∀ (i : Nat) (stream : List StreamItem),
      workers[i]? = some (.consumer .deadLetterPermanent stream) →
        Drains stream (settledBy h i) (p.AtRest ∧ ∀ m ∈ schedule, m ≠ .drop i)) ∧
    WellFounded (@Pool.Goes σ Report answer) ∧
    ∃ order : List Nat, (p.run answer (order.map .step)).AtRest := by
  intro start p h
  obtain ⟨mild, contents⟩ := hosts.routine_of_run begun (fun _ _ => mild_of_isSober)
    (routine_workers sink workers) any
  refine ⟨fun i f ended => ?_, fun i f d s told => (mild i _ told).1, fun i worker here strict => ?_,
    fun i stream here => drains_of_run hosts sink begun any here, Pool.wellFounded_goes answer,
    Pool.exists_atRest answer p⟩
  · have steady : Steady (.error f) := contents i _ ended
    exact steady f rfl
  · have policy : policyAt workers i = some .deadLetterPermanent := by
      rw [policyAt, here]
      exact strict
    exact ⟨fun ended => contents i _ ended policy rfl, fun f s told => (mild i _ told).2 policy rfl,
      fun s told => mild i _ told policy rfl⟩

end Runs

/-! ## Two returns and a queue -/

/-- The copy is out on the first loan, and the broker is there. -/
def copyOut : Rehearsal.World :=
  let w := Rehearsal.World.fresh ⟨0, 0⟩ []
  { w with
    desk := ((borrowCopy.procedure recordingSink).run Desk.answer oneCopy).2
    broker := { w.broker with connected := true } }

/-- A return of the first loan, something that is no command, and a return of a loan that is not
there. -/
def threeMessages : List StreamItem :=
  [.delivery 1 returnMessage.message, .delivery 2 [],
    .delivery 3 (Command.encode ⟨.giveBack, "r-9", none, ⟨none, none, none, some ⟨9⟩⟩⟩)]

/-- While two calls return the first loan, a consumer works off the messages. -/
def returners : List Worker :=
  [.call returnCopy, .consumer .deadLetterPermanent threeMessages, .call returnCopy]

/-- All three take turns, request by request. -/
def byTurns : List Nat := (List.replicate 25 [0, 1, 2]).flatten

/-- Events are published over the broker. -/
def overBroker : EventSink :=
  Selector.eventSink ⟨some (Broker.Link.transport ⟨0⟩), some PubSub.transport⟩

/-- The three deliveries drain the queue, none of the three returns of one loan fails, and the broker
is handed one event. -/
theorem drained_of_run_copyOut :
    let start := workerPool overBroker returners copyOut
    let p := start.run Rehearsal.World.answer (byTurns.map .step)
    let told := settledBy (start.history Rehearsal.World.answer (byTurns.map .step)) 1
    told = [(1, .ack false), (2, .ack false), (3, .nack false false)] ∧
      p.world.desk.ledger.loans.toList.map (·.status) = [.returned] ∧
      p.world.broker.calls.length = 1 ∧
      (∀ (i : Nat) (f : Failure), p.results[i]? = some (some (.served (.error f))) → f.Steady) ∧
      ∃ q : Queue, q.ready = [] ∧ q.unsettled = [] ∧
        q.Serves ((deliveriesOf threeMessages).map Prod.snd) (deliveriesOf threeMessages) told := by
  have undisturbing : ∀ m ∈ byTurns.map Pool.Move.step,
      Undisturbing (·.desk) Rehearsal.World.Calm m := by
    intro m mem
    obtain ⟨i, -, rfl⟩ := List.mem_map.mp mem
    trivial
  have kept : ∀ m ∈ byTurns.map Pool.Move.step, m ≠ Pool.Move.drop (σ := Rehearsal.World) 1 := by
    intro m mem
    obtain ⟨i, -, rfl⟩ := List.mem_map.mp mem
    exact nofun
  obtain ⟨steady, -, -, drains, -⟩ := drained_of_run hosts_world
    (discreet_durableSink (some ⟨0⟩)) returners
    (w := copyOut) ⟨by decide +kernel, rfl⟩ undisturbing
  have atRest : ((workerPool overBroker returners copyOut).run Rehearsal.World.answer
      (byTurns.map .step)).AtRest := Pool.atRest_of_results (by decide +kernel)
  have consumer := drains 1 threeMessages rfl
  have served := consumer.possible ⟨atRest, kept⟩
  refine ⟨by decide +kernel, by decide +kernel, by decide +kernel, steady, ⟨[], []⟩, rfl, ?_, served⟩
  exact (consumer.drained ⟨atRest, kept⟩ _ ⟨[], []⟩ served rfl).1

end Circulation.Lending
