/- # Circulation.Proofs.Messaging.EventPath -- from the desk to those who listen

The events of a dispatcher go over two lines that take and refuse as they like, and whatever the lines
have taken is fed to a listener, among messages that are no events. The desk is served as if its events
were merely recorded, and the listener hears what would have been recorded, without what was dropped
(`heard_of_jobs`). For the second part the numbers must fit into messages, which is so as long as the
numbers for loans have not run out.
-/
import Circulation.Messaging.Listener
import Circulation.Proofs.Lending.Width
import Circulation.Proofs.Messaging.Relay
import Circulation.Proofs.Wire.Damage

namespace Circulation

open Lending (Dispatcher Job Within Widens borrowMessage oneCopy recordingSink returnMessage)

/-! ## Listening -/

/-- The event that the application is handed. -/
def Request.heard? : Request → Option Event
  | hear event => some event
  | _ => none

namespace Listener

variable {σ : Type} (ears : Surroundings σ)

theorem deliver_event {message : Bytes} {event : Event} (read : Event.decode? message = some event) :
    application.deliver message = .ask (.hear event) fun _ => .done true := by
  rw [deliver, read]
  rfl

/-- Messages that hold events that fit are fed to the listener, mixed with messages that hold none. It
says which are which, and hands on the events, each once and in their order. -/
theorem heard_of_mixed (fed : List (Bytes × Bool)) {events : List Event}
    (fits : ∀ event ∈ events, event.Fits)
    (genuine : (fed.filter Prod.snd).map Prod.fst = events.map Event.encode)
    (noise : ∀ x ∈ fed, x.2 = false → Event.decode? x.1 = none) (s : σ) :
    let listens := fed.mapM fun x => application.deliver x.1
    (listens.run ears s).1 = fed.map Prod.snd ∧
      (listens.asked ears s).filterMap Request.heard? = events := by
  induction fed generalizing events s with
  | nil =>
    have none_ : events = [] := List.map_eq_nil_iff.mp genuine.symm
    subst none_
    exact ⟨rfl, rfl⟩
  | cons x rest ih =>
    obtain ⟨message, kind⟩ := x
    obtain ⟨here, later⟩ := List.forall_mem_cons.mp noise
    simp only [Procedure.run_mapM_cons, Procedure.asked_mapM_cons, List.filterMap_append]
    cases kind with
    | false =>
      obtain ⟨told, heard⟩ := ih fits genuine later (ears (.note .badEvent none) s).2
      rw [application.drops_noise (here rfl)]
      exact ⟨congrArg (false :: ·) told, heard⟩
    | true =>
      obtain ⟨event, others, rfl, rfl, genuine'⟩ := List.map_eq_cons_iff.mp genuine.symm
      obtain ⟨fits_, fits'⟩ := List.forall_mem_cons.mp fits
      obtain ⟨told, heard⟩ := ih fits' genuine'.symm later (ears (.hear event) s).2
      rw [deliver_event (Event.decode?_encode fits_)]
      exact ⟨congrArg (true :: ·) told, congrArg (event :: ·) heard⟩

end Listener

/-! ## The whole path -/

/-- Whatever the lines do, a dispatcher that publishes its events comes to the same dispositions as one
that records them, and leaves the same desk but for the record. The lines have taken the messages of the
events that were not dropped. Where the numbers are small enough, a listener that is fed with what was
taken, in that order and among any messages that are no events, says of each which it was and hands on
just these events. -/
theorem heard_of_jobs {γ σ : Type} (policy : RetryPolicy) (desk : Desk)
    (primary fallback : Option String) (carriers : Surroundings γ) (g : γ) (jobs : List Job) :
    let loud : Dispatcher := ⟨(Selector.overLines primary fallback).eventSink, policy⟩
    let plain : Dispatcher := ⟨recordingSink, policy⟩
    let published := (jobs.mapM loud.carryOut).run (Desk.over carriers) (desk, g)
    let tape := (jobs.mapM loud.carryOut).tape (Desk.over carriers) (desk, g)
    let recorded := (jobs.mapM plain.carryOut).run Desk.answer desk
    let told := tape.filterMap Exchange.told?
    let accepted := Trial.taken (tape.filterMap Exchange.trial?)
    let kept := (told.filter fun x => x.2 ≠ .dropped).map Prod.fst
    published.1 = recorded.1 ∧
      published.2.1 = { recorded.2 with events := desk.events } ∧
      recorded.2.events = desk.events ++ told.map Prod.fst ∧
      accepted = kept.map (fun event => (Topic.loanEvents, event.encode)) ∧
      ((∀ job ∈ jobs, job.Fits) → desk.stores.Fits → Fits64 desk.ledger.nextId →
        Fits64 recorded.2.ledger.nextId → ∀ (fed : List (Bytes × Bool)) (ears : Surroundings σ) (s : σ),
          (fed.filter Prod.snd).map Prod.fst = accepted.map Prod.snd →
          (∀ x ∈ fed, x.2 = false → Event.decode? x.1 = none) →
          let listens := fed.mapM fun x => Listener.application.deliver x.1
          (listens.run ears s).1 = fed.map Prod.snd ∧
            (listens.asked ears s).filterMap Request.heard? = kept) := by
  intro loud plain published tape recorded told accepted kept
  have relays : Relays (Emits carriers primary.isSome fallback.isSome) (jobs.mapM plain.carryOut)
      (jobs.mapM loud.carryOut) :=
    .mapM (relays_job (emits_eventSink carriers primary fallback)
      (fun span _ _ emission => emission.within carriers span) policy) jobs
  obtain ⟨same, quiet, accounts⟩ := relays.run desk g desk.events
  have recorded_ : recorded =
      (published.1, { published.2.1 with events := desk.events ++ told.map Prod.fst }) := same
  have accepted_ : accepted = kept.map fun event => (Topic.loanEvents, event.encode) := by
    rw [show accepted = _ from accounts.taken, List.map_map]
    rfl
  refine ⟨by rw [recorded_], ?_, by rw [recorded_], accepted_, ?_⟩
  · rw [recorded_, ← quiet]
  · intro commands stores first last fed ears s genuine noise
    obtain ⟨-, news, added, fits⟩ := Lending.widens_of_jobs policy commands desk
    have told_ : told.map Prod.fst = news :=
      List.append_cancel_left ((congrArg Desk.events (congrArg Prod.snd recorded_)).symm.trans added)
    have start : Within (.nothing none) desk.stores := ⟨first.1, fun _ => ⟨trivial, stores⟩⟩
    have fits_ : ∀ event ∈ kept, event.Fits := by
      intro event mem
      obtain ⟨x, sent, rfl⟩ := List.mem_map.mp mem
      have new : x.1 ∈ news := told_ ▸ List.mem_map_of_mem (List.mem_of_mem_filter sent)
      exact (fits start).2 last.2 x.1 new
    refine Listener.heard_of_mixed ears fed fits_ ?_ noise s
    rw [genuine, accepted_, List.map_map]
    rfl

/-- The copy is borrowed and returned, with a message in between that is no command. -/
def lentAndReturned : List Job :=
  [.call ⟨.borrow, "b-7", none, ⟨some ⟨7⟩, some ⟨1⟩, none, none⟩⟩, .message [],
    .message returnMessage.message]

theorem fits_lentAndReturned : ∀ job ∈ lentAndReturned, job.Fits := by
  unfold lentAndReturned
  simp only [List.forall_mem_cons, List.not_mem_nil, false_imp_iff, implies_true, and_true]
  refine ⟨?_, trivial, trivial⟩
  constructor <;> rintro n ⟨⟩ <;> decide

theorem fits_oneCopy : oneCopy.stores.Fits := by
  have empty : Stores.Fits ⟨Register.empty, .empty⟩ :=
    ⟨fun _ b there => absurd there (Option.some_ne_none b).symm,
      fun _ l there => absurd there (Option.some_ne_none l).symm⟩
  exact empty.putBook ⟨by decide, by decide, by decide⟩

/-- The first event is taken by the primary line. The second one is refused by both and lost, and
nobody else notices. -/
theorem heard_of_jobs_lost :
    let loud : Dispatcher :=
      ⟨(Selector.overLines "amqp" "redis").eventSink, .deadLetterPermanent⟩
    let published := (lentAndReturned.mapM loud.carryOut).run (Desk.over Line.planned)
      (oneCopy, [true, false, false])
    let tape := (lentAndReturned.mapM loud.carryOut).tape (Desk.over Line.planned)
      (oneCopy, [true, false, false])
    let accepted := Trial.taken (tape.filterMap Exchange.trial?)
    let fed := ([], false) :: accepted.map fun m => (m.2, true)
    let listens := fed.mapM fun x => Listener.application.deliver x.1
    published.1 = [.ack, .ack, .ack] ∧ published.2.1.events = [] ∧
      (listens.run Desk.answer oneCopy).1 = [false, true] ∧
      ((listens.asked Desk.answer oneCopy).filterMap Request.heard?).map Event.kind = [.requested] := by
  intro loud published tape accepted fed listens
  obtain ⟨same, left_, -, -, hears⟩ := heard_of_jobs .deadLetterPermanent oneCopy "amqp" "redis"
    Line.planned [true, false, false] lentAndReturned
  have genuine : (fed.filter Prod.snd).map Prod.fst = accepted.map Prod.snd := by decide +kernel
  have noise : ∀ x ∈ fed, x.2 = false → Event.decode? x.1 = none := by decide +kernel
  obtain ⟨said, heard⟩ := hears fits_lentAndReturned fits_oneCopy (by decide) (by decide +kernel) fed
    Desk.answer oneCopy genuine noise
  refine ⟨same.trans (by decide +kernel), ?_, said.trans (by decide +kernel), ?_⟩
  · rw [left_]
    rfl
  · rw [heard]
    decide +kernel

end Circulation
