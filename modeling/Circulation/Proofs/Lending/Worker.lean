/- # Circulation.Proofs.Lending.Worker -- all who carry out commands

A command is carried out by a call, for a message, by the consumer of the durable queue or by the
subscriber of the fallback. All four do routine work (`Worker.routine`): as long as nothing fails they
meet no failure that another try could mend, and under the policy that sets permanent failures aside
nothing is put back. Whatever else happens, the consumer asks for one settlement for each delivery of
its stream, in their order (`Worker.settling_consumer`).

What is said of a sink for events is that it is discreet. The sink that publishes events is, over the
broker with publish/subscribe to fall back on (`discreet_durableSink`).
-/
import Circulation.Messaging.Publisher
import Circulation.Proofs.Broker.Queue
import Circulation.Proofs.Lending.Round
import Circulation.Proofs.Lending.Routine
import Circulation.Proofs.Messaging.Carrier
import Circulation.PubSub.Client

namespace Circulation

open Broker (Settlement StreamItem)

namespace Request

/-- The settlement that is asked for, with the tag of its delivery. -/
def settlement? : Request → Option (Nat × Settlement)
  | broker (.settle tag s) => some (tag, s)
  | _ => none

/-- Needs no gate, settles nothing, and does not say what became of a command. -/
def isDiscreet : Request → Bool
  | enterGate | leaveGate | store _ | broker (.settle ..) | note (.commandFailed ..) _
  | note (.commandProcessed _) _ => false
  | _ => true

theorem isPublic_of_isDiscreet {q : Request} (h : q.isDiscreet = true) : q.isPublic = true := by
  cases q <;> first | rfl | exact absurd h Bool.false_ne_true

theorem settlement?_of_isDiscreet {q : Request} (h : q.isDiscreet = true) : q.settlement? = none := by
  cases q with
  | broker c => cases c <;> first | rfl | exact absurd h Bool.false_ne_true
  | _ => rfl

theorem settlement?_of_isOwn {q : Request} (h : q.isOwn = true) : q.settlement? = none := by
  cases q <;> first | rfl | exact absurd h Bool.false_ne_true

theorem settlement?_of_isGate {q : Request} (h : q.isGate = true) : q.settlement? = none := by
  cases q <;> first | rfl | exact absurd h Bool.false_ne_true

end Request

namespace Lending

variable {α β : Type}

/-! ## Discreet sinks -/

/-- Asks only what is discreet. -/
abbrev Discreet : Procedure α → Prop := Procedure.Asks fun q => q.isDiscreet = true

/-- The transport over a message broker. -/
theorem discreet_link (link : Broker.Link) (topic : String) (body : Bytes) :
    Discreet (link.transport.publish topic body) := by
  refine asks_bind (asks_ofAnswer (.ask rfl .done)) fun _ =>
    asks_bind (asks_ofAnswer (.ask rfl .done)) fun confirmation => ?_
  cases confirmation <;> exact .done _

/-- The fallback over publish/subscribe. -/
theorem discreet_pubSub (topic : String) (body : Bytes) :
    Discreet (PubSub.transport.publish topic body) := by
  refine asks_bind (asks_ofAnswer (.ask rfl .done)) fun receivers => ?_
  split
  · exact .ask rfl fun _ => .done _
  · exact .done _

/-- Over discreet transports the sink that publishes events is discreet. -/
theorem discreet_eventSink {s : Selector}
    (primary : ∀ t ∈ s.primary, ∀ topic body, Discreet (t.publish topic body))
    (fallback : ∀ t ∈ s.fallback, ∀ topic body, Discreet (t.publish topic body)) (ev : Event) :
    Discreet (s.eventSink ev) := by
  have notes (n : Notice) (of_ : n.isOfPublishing = true) :
      (Request.note n none).isDiscreet = true := by
    cases n <;> first | rfl | exact absurd of_ Bool.false_ne_true
  exact (Selector.asks_publish primary fallback notes Topic.loanEvents ev.encode).andThen fun _ =>
    .ask rfl .done

/-- So the sink over the broker, if there is a link to it, and over publish/subscribe is discreet. -/
theorem discreet_durableSink (link : Option Broker.Link) (ev : Event) :
    Discreet (Selector.eventSink ⟨link.map (·.transport), some PubSub.transport⟩ ev) := by
  refine discreet_eventSink (fun t primary => ?_) (fun t fallback => ?_) ev
  · obtain ⟨l, -, rfl⟩ := Option.map_eq_some_iff.mp primary
    exact discreet_link l
  · cases fallback
    exact discreet_pubSub

/-! ## What may be said about commands -/

/-- A failure that is told of stays; and where permanent failures are set aside no disposition puts a
message back, and every settlement is for good. -/
def Mild (policy : Option RetryPolicy) : Request → Prop
  | .note (.commandFailed f d) _ => f.Steady ∧ (policy = some .deadLetterPermanent → d ≠ .requeue)
  | .note (.commandProcessed d) _ => policy = some .deadLetterPermanent → d ≠ .requeue
  | .broker (.settle _ s) => policy = some .deadLetterPermanent → s.Final
  | _ => True

section Mild

variable {policy : Option RetryPolicy}

theorem mild_of_isDiscreet {q : Request} (h : q.isDiscreet = true) : Mild policy q := by
  cases q with
  | broker c => cases c <;> trivial
  | note n s => cases n <;> trivial
  | _ => trivial

theorem mild_of_isSober {q : Request} (h : isSober q = true) : Mild policy q := by
  cases q with
  | note n s => cases n <;> trivial
  | broker => exact absurd h Bool.false_ne_true
  | _ => trivial

theorem mild_note (n : Notice) (s s' : Option Span) (h : Mild policy (.note n s)) :
    Mild policy (.note n s') := by
  cases n <;> exact h

/-- Where permanent failures are set aside a failure that stays is not put back. -/
theorem RetryPolicy.dispositionFor_of_steady {f : Failure} (steady : f.Steady) {policy : RetryPolicy}
    (strict : some policy = some .deadLetterPermanent) : policy.dispositionFor f ≠ .requeue := by
  cases Option.some.inj strict
  simp [RetryPolicy.dispositionFor, Failure.steady_iff.mp steady]

end Mild

/-! ## Workers -/

/-- Those who carry out commands. -/
inductive Worker where
  | call (e : Errand)
  | message (y : Delivery)
  | consumer (policy : RetryPolicy) (stream : List StreamItem)
  | subscriber (policy : RetryPolicy) (messages : List Bytes)

/-- What is heard of a worker in the end. -/
inductive Report where
  | served (answer : Except Failure Served)
  | answered (disposition : Disposition)
  | stopped
deriving DecidableEq

namespace Worker

/-- What becomes of commands that fail, if that is for the worker to say. -/
def policy? : Worker → Option RetryPolicy
  | call _ => none
  | message y => some y.policy
  | consumer policy _ => some policy
  | subscriber policy _ => some policy

/-- What the worker does. -/
def procedure (emit : EventSink) : Worker → Procedure Report
  | call e => (e.procedure emit).andThen fun r => .done (.served r)
  | message y => (y.procedure emit).andThen fun d => .done (.answered d)
  | consumer policy stream =>
    (Broker.consumeCommands ⟨emit, policy⟩ stream).andThen fun _ => .done .stopped
  | subscriber policy messages =>
    (PubSub.receiveCommands ⟨emit, policy⟩ messages).andThen fun _ => .done .stopped

/-- A call has not failed but for good, and where permanent failures are set aside a message is not put
back. -/
def Contents (policy : Option RetryPolicy) : Report → Prop
  | .served r => Steady r
  | .answered d => policy = some .deadLetterPermanent → d ≠ .requeue
  | .stopped => True

end Worker

/-! ## Routine work -/

section Routine

variable {emit : EventSink} {policy : Option RetryPolicy}

theorem routine_epilogue (sink : ∀ ev, Discreet (emit ev)) {v : Verdict} (steady : Steady v.answer) :
    Routine (Mild policy) Steady (v.epilogue emit) := by
  have told (event : Time.Instant → Event) {notice : Notice} (mild : Mild policy (.note notice none)) :
      Routine (Mild policy) Steady (.ask .readClock fun now => (emit (event now)).andThen fun _ =>
        .ask (.note notice none) fun _ => .done v.answer) := by
    refine .ask rfl trivial fun now => ?_
    have sent : Routine (Mild policy) (fun _ => True) (emit (event now)) :=
      .of_asks ((sink _).mono fun _ discreet =>
        ⟨Request.isPublic_of_isDiscreet discreet, mild_of_isDiscreet discreet⟩) fun _ => trivial
    exact sent.andThen fun _ _ => .ask rfl mild fun _ => .done steady
  cases v with
  | failed f => exact .done steady
  | settledBefore loan => exact .done steady
  | lent loan taken => exact told _ trivial
  | returned loan remaining => exact told _ trivial

/-- A call that lacks something lacks it for good. -/
theorem Errand.steady_of_section? {e : Errand} {f : Failure} (lacks : e.section? = .error f) :
    f.Steady := by
  refine Failure.steady_iff.mpr ?_
  cases e with
  | borrow c =>
    simp only [Errand.section?] at lacks
    split at lacks <;> cases lacks <;> rfl
  | giveBack c =>
    simp only [Errand.section?] at lacks
    split at lacks <;> cases lacks
    rfl

theorem Errand.routine (sink : ∀ ev, Discreet (emit ev)) (e : Errand) :
    Routine (Mild policy) Steady (e.procedure emit) := by
  rw [Errand.procedure_eq]
  cases behind : e.section? with
  | error f =>
    refine .done fun f' failed => ?_
    cases failed
    exact e.steady_of_section? behind
  | ok p =>
    exact .call (fun st => section_course _ behind none st) (section_inner behind)
      fun v steady => routine_epilogue sink steady

theorem Delivery.routine (sink : ∀ ev, Discreet (emit ev)) (y : Delivery) :
    Routine (Mild (some y.policy)) (fun d => some y.policy = some .deadLetterPermanent → d ≠ .requeue)
      (y.procedure emit) := by
  rcases y.procedure_cases emit with dropped | ⟨-, called⟩
  · generalize y.procedure emit = p at dropped
    cases dropped <;> exact .ask rfl trivial fun _ => .done (by simp)
  · rw [called]
    refine .within (Routine.andThen (y.errand.routine sink) fun r steady => ?_) mild_note _
    cases r with
    | ok o => exact .done (by simp)
    | error f =>
      have stays (strict : some y.policy = some .deadLetterPermanent) :
          y.policy.dispositionFor f ≠ .requeue :=
        RetryPolicy.dispositionFor_of_steady (steady f rfl) strict
      exact .ask rfl ⟨steady f rfl, stays⟩ fun _ => .done stays

theorem routine_note {n : Notice} (mild : Mild policy (.note n none)) :
    Routine (Mild policy) (fun _ => True) (Procedure.note n) := .ask rfl mild fun _ => .done trivial

theorem routine_settle {tag : Nat} {d : Disposition}
    (settled : policy = some .deadLetterPermanent → d ≠ .requeue) :
    Routine (Mild policy) (fun _ => True) (Broker.settle tag d) := by
  refine .ask rfl (fun strict => Broker.final_settlementFor (settled strict)) fun answer => ?_
  cases answer with
  | ok a => exact .done trivial
  | error cause => exact routine_note trivial

theorem routine_feedDeliveries (sink : ∀ ev, Discreet (emit ev)) (policy : RetryPolicy)
    (stream : List StreamItem) :
    Routine (Mild (some policy)) (fun _ => True) (Broker.feedCommands ⟨emit, policy⟩ stream) := by
  induction stream with
  | nil => exact .done trivial
  | cons item rest ih =>
    cases item with
    | delivery tag body =>
      exact (Delivery.routine sink ⟨policy, body⟩).andThen fun d settled =>
        (routine_settle settled).andThen fun _ _ => ih
    | failure =>
      exact (routine_note (n := .commandDeliveryFailed) trivial).andThen fun _ _ => .done trivial

theorem routine_feedMessages (sink : ∀ ev, Discreet (emit ev)) (policy : RetryPolicy)
    (messages : List Bytes) :
    Routine (Mild (some policy)) (fun _ => True) (PubSub.feedCommands ⟨emit, policy⟩ messages) := by
  induction messages with
  | nil => exact .done trivial
  | cons message rest ih =>
    exact (Delivery.routine sink ⟨policy, message⟩).andThen fun d settled =>
      (routine_note (n := .commandProcessed d) settled).andThen fun _ _ => ih

/-- Every worker does routine work. -/
theorem Worker.routine (sink : ∀ ev, Discreet (emit ev)) (w : Worker) :
    Routine (Mild w.policy?) (Worker.Contents w.policy?) (w.procedure emit) := by
  cases w with
  | call e => exact (e.routine sink).andThen fun r steady => .done steady
  | message y => exact (y.routine sink).andThen fun d settled => .done settled
  | consumer policy stream =>
    have stopped := (routine_feedDeliveries sink policy stream).andThen fun _ _ =>
      routine_note (n := .commandConsumerStopped Topic.loanCommands) trivial
    exact stopped.andThen fun _ _ => .done trivial
  | subscriber policy messages =>
    have stopped := (routine_feedMessages sink policy messages).andThen fun _ _ =>
      routine_note (n := .commandSubscriberStopped Topic.loanCommands) trivial
    exact stopped.andThen fun _ _ => .done trivial

end Routine

/-! ## One settlement for each delivery -/

/-- The deliveries that a stream yields before it breaks. -/
def deliveriesOf : List StreamItem → List (Nat × Bytes)
  | [] => []
  | .delivery tag body :: rest => (tag, body) :: deliveriesOf rest
  | .failure :: _ => []

/-- Asks for settlements of the deliveries with these tags, in this order, whatever is answered. -/
inductive Settling : List Nat → Procedure α → Prop
  | done (a : α) : Settling [] (.done a)
  | ask {due later : List Nat} {q : Request} {next : q.Answer → Procedure α}
      (now : due = (q.settlement?.map Prod.fst).toList ++ later) (rest : ∀ a, Settling later (next a)) :
      Settling due (.ask q next)

namespace Settling

theorem of_asks {p : Procedure α} (asks : p.Asks fun q => q.settlement? = none) : Settling [] p := by
  induction asks with
  | done a => exact .done a
  | ask asked _ ih =>
    refine .ask ?_ ih
    rw [asked]
    rfl

theorem andThen {due due' : List Nat} {p : Procedure α} {f : α → Procedure β} (s : Settling due p)
    (rest : ∀ a, Settling due' (f a)) : Settling (due ++ due') (p.andThen f) := by
  induction s with
  | done a => exact rest a
  | ask now _ ih =>
    refine .ask ?_ ih
    rw [now, List.append_assoc]

/-- Nothing but what comes after is settled. -/
theorem after {due : List Nat} {p : Procedure α} {f : α → Procedure β}
    (asks : p.Asks fun q => q.settlement? = none) (rest : ∀ a, Settling due (f a)) :
    Settling due (p.andThen f) := (of_asks asks).andThen rest

end Settling

/-- To dispatch a message settles nothing. -/
theorem Dispatcher.unsettling_dispatch {d : Dispatcher}
    (sink : ∀ ev, (d.emit ev).Asks fun q => q.settlement? = none) (message : Bytes) :
    (d.dispatch message).Asks fun q => q.settlement? = none :=
  Dispatcher.asks_dispatch (fun _ => Request.settlement?_of_isOwn) sink (fun _ _ _ _ => rfl) message

section Settling

variable {emit : EventSink}

theorem unsettling_delivery (sink : ∀ ev, Discreet (emit ev)) (y : Delivery) :
    (y.procedure emit).Asks fun q => q.settlement? = none :=
  Dispatcher.unsettling_dispatch (d := ⟨emit, y.policy⟩)
    (fun ev => (sink ev).mono fun _ => Request.settlement?_of_isDiscreet) y.message

theorem settling_settle (tag : Nat) (d : Disposition) : Settling [tag] (Broker.settle tag d) := by
  have nothing_later : [tag] = [tag] ++ [] := rfl
  refine .ask nothing_later fun answer => ?_
  cases answer with
  | ok a => exact .done _
  | error cause => exact .of_asks (.ask rfl .done)

theorem settling_feedDeliveries (sink : ∀ ev, Discreet (emit ev)) (policy : RetryPolicy)
    (stream : List StreamItem) :
    Settling ((deliveriesOf stream).map Prod.fst) (Broker.feedCommands ⟨emit, policy⟩ stream) := by
  induction stream with
  | nil => exact .done _
  | cons item rest ih =>
    cases item with
    | delivery tag body =>
      exact .after (unsettling_delivery sink ⟨policy, body⟩) fun d =>
        (settling_settle tag d).andThen fun _ => ih
    | failure => exact .of_asks (.ask rfl fun _ => .done _)

/-- The consumer settles the deliveries of its stream, each once and in their order. -/
theorem Worker.settling_consumer (sink : ∀ ev, Discreet (emit ev)) (policy : RetryPolicy)
    (stream : List StreamItem) :
    Settling ((deliveriesOf stream).map Prod.fst) ((consumer policy stream).procedure emit) := by
  have fed := (settling_feedDeliveries sink policy stream).andThen fun _ =>
    Settling.of_asks (p := Procedure.note (.commandConsumerStopped Topic.loanCommands))
      (.ask rfl .done)
  have stopped := fed.andThen fun _ => Settling.done Report.stopped
  rwa [List.append_nil, List.append_nil] at stopped

end Settling

end Lending

end Circulation
