/- # Circulation.Proofs.Messaging.Relay -- the sink that publishes does not disturb the desk

A dispatcher that publishes its events does what one that records them does, except that in place of
each record there is an emission (`Relays`). An emission sends the event along the lines and tells of
it, and leaves the desk alone, whatever the lines answer (`Emits`). So the two come to the same
dispositions and leave the same desk, up to the record; and what was recorded can be read off the tape
of the one that published (`Relays.run`).
-/
import Circulation.Proofs.Lending.Round
import Circulation.Proofs.Messaging.Carrier

namespace Circulation

open Lending (Dispatcher EventSink Errand Verdict closing recordingSink)

/-! ## What is read off the tape -/

/-- The event that was published, with what became of it. -/
def Exchange.told? : Exchange → Option (Event × PublishOutcome)
  | ⟨.note (.eventEmitted event outcome) _, _⟩ => some (event, outcome)
  | _ => none

/-- A message is handed to a line. -/
def Request.isSend : Request → Bool
  | send .. => true
  | _ => false

theorem Exchange.trial?_of_isOwn {q : Request} (own : q.isOwn = true) (a : q.Answer) :
    Exchange.trial? ⟨q, a⟩ = none := by
  cases q <;> first | rfl | exact absurd own Bool.false_ne_true

theorem Exchange.told?_of_isOwn {q : Request} (own : q.isOwn = true) (a : q.Answer) :
    Exchange.told? ⟨q, a⟩ = none := by
  cases q with
  | note n span => cases n <;> first | rfl | exact absurd own Bool.false_ne_true
  | _ => rfl

theorem Request.isSend_of_isOwn {q : Request} (own : q.isOwn = true) : q.isSend = false := by
  cases q <;> first | rfl | exact absurd own Bool.false_ne_true

theorem Exchange.trial?_mark (span : Span) (x : Exchange) : (x.mark span).trial? = x.trial? := by
  obtain ⟨q, a⟩ := x
  cases q with
  | note n mark => cases mark <;> rfl
  | _ => rfl

theorem Exchange.told?_mark (span : Span) (x : Exchange) : (x.mark span).told? = x.told? := by
  obtain ⟨q, a⟩ := x
  cases q with
  | note n mark => cases mark <;> cases n <;> rfl
  | _ => rfl

/-- The message of an event. -/
def Event.carriage (e : Event) : String × Bytes := (Topic.loanEvents, e.encode)

/-- The tape tells of the passages that are on it, each with its event and its outcome. -/
def Accounts (hasPrimary hasFallback : Bool) (tape : List Exchange) : Prop :=
  ∃ passages : List Passage,
    tape.filterMap Exchange.trial? = passages.flatMap Passage.trials ∧
    (∀ p ∈ passages, p.InTurn hasPrimary hasFallback) ∧
    (tape.filterMap Exchange.told?).map (fun x => (x.1.carriage, x.2)) =
      passages.map fun p => (p.message, p.outcome)

namespace Accounts

variable {hasPrimary hasFallback : Bool}

theorem nil : Accounts hasPrimary hasFallback [] := ⟨[], rfl, nofun, rfl⟩

theorem single {q : Request} (own : q.isOwn = true) (a : q.Answer) :
    Accounts hasPrimary hasFallback [⟨q, a⟩] := by
  refine ⟨[], ?_, nofun, ?_⟩
  · rw [List.filterMap_cons_none (Exchange.trial?_of_isOwn own a)]
    rfl
  · rw [List.filterMap_cons_none (Exchange.told?_of_isOwn own a)]
    rfl

theorem append {before after : List Exchange} (h : Accounts hasPrimary hasFallback before)
    (h' : Accounts hasPrimary hasFallback after) :
    Accounts hasPrimary hasFallback (before ++ after) := by
  obtain ⟨passages, tried, inTurn, told⟩ := h
  obtain ⟨passages', tried', inTurn', told'⟩ := h'
  refine ⟨passages ++ passages', ?_, List.forall_mem_append.mpr ⟨inTurn, inTurn'⟩, ?_⟩
  · rw [List.filterMap_append, List.flatMap_append, tried, tried']
  · rw [List.filterMap_append, List.map_append, List.map_append, told, told']

/-- What the lines have taken is what was told of and not dropped. -/
theorem taken {tape : List Exchange} (h : Accounts hasPrimary hasFallback tape) :
    Trial.taken (tape.filterMap Exchange.trial?) =
      ((tape.filterMap Exchange.told?).filter fun x => x.2 ≠ .dropped).map fun x => x.1.carriage := by
  obtain ⟨passages, tried, inTurn, told⟩ := h
  rw [tried, Passage.taken_trials inTurn, carried, List.zip_map', ← told, List.filter_map,
    List.map_map]
  rfl

end Accounts

/-! ## Emissions -/

/-- A desk with lines that do as they like. -/
abbrev Desk.over {γ : Type} (carriers : Surroundings γ) : Surroundings (Desk × γ) :=
  Desk.answer.beside Request.isSend carriers

theorem Desk.over_ignoresSpans {γ : Type} (carriers : Surroundings γ) :
    (Desk.over carriers).IgnoresSpans :=
  Lending.ignoresSpans_answer.beside fun _ _ => rfl

section Emission

variable {γ : Type} (carriers : Surroundings γ)

/-- The event is sent along the lines, one passage long, and told of; and the desk is left alone. -/
structure Emits (hasPrimary hasFallback : Bool) (e : Event) (p : Procedure Unit) : Prop where
  idle : ∀ w, (p.run (Desk.over carriers) w).2.1 = w.1
  accounts : ∀ w, Accounts hasPrimary hasFallback (p.tape (Desk.over carriers) w)
  told : ∀ w, ((p.tape (Desk.over carriers) w).filterMap Exchange.told?).map Prod.fst = [e]

theorem Emits.within {hasPrimary hasFallback : Bool} {e : Event} {p : Procedure Unit}
    (h : Emits carriers hasPrimary hasFallback e p) (span : Span) :
    Emits carriers hasPrimary hasFallback e (p.within span) := by
  have ignores := Desk.over_ignoresSpans carriers
  have trials (w) : ((p.within span).tape (Desk.over carriers) w).filterMap Exchange.trial? =
      (p.tape (Desk.over carriers) w).filterMap Exchange.trial? :=
    Procedure.filterMap_tape_within ignores (Exchange.trial?_mark span) p w
  have told (w) : ((p.within span).tape (Desk.over carriers) w).filterMap Exchange.told? =
      (p.tape (Desk.over carriers) w).filterMap Exchange.told? :=
    Procedure.filterMap_tape_within ignores (Exchange.told?_mark span) p w
  refine ⟨fun w => ?_, fun w => ?_, fun w => ?_⟩
  · rw [Procedure.run_within ignores]
    exact h.idle w
  · rw [Accounts, trials, told]
    exact h.accounts w
  · rw [told]
    exact h.told w

/-- The sink that publishes over the lines emits. -/
theorem emits_eventSink (primary fallback : Option String) (e : Event) :
    Emits carriers primary.isSome fallback.isSome e
      ((Selector.overLines primary fallback).eventSink e) := by
  let publish := (Selector.overLines primary fallback).publish Topic.loanEvents e.encode
  have parts : (Selector.overLines primary fallback).eventSink e = publish.andThen fun outcome =>
      .ask (.note (.eventEmitted e outcome) none) .done := rfl
  have tape (w) : ((Selector.overLines primary fallback).eventSink e).tape (Desk.over carriers) w =
      publish.tape (Desk.over carriers) w ++
        [⟨.note (.eventEmitted e (publish.run (Desk.over carriers) w).1) none, ()⟩] := by
    rw [parts, Procedure.tape_andThen]
    rfl
  have told (w) : (((Selector.overLines primary fallback).eventSink e).tape (Desk.over carriers)
      w).filterMap Exchange.told? = [(e, (publish.run (Desk.over carriers) w).1)] := by
    have silent : publish.Asks fun q => ∀ a, Exchange.told? ⟨q, a⟩ = none :=
      Selector.asks_overLines (fun _ _ _ _ => rfl)
        (fun n of_ => by cases n <;> first | exact fun _ => rfl | exact absurd of_ Bool.false_ne_true)
        primary fallback Topic.loanEvents e.encode
    rw [tape, List.filterMap_append, silent.filterMap_tape]
    rfl
  have idle : ((Selector.overLines primary fallback).eventSink e).Asks fun q =>
      q.isSend = true ∨ ∀ d : Desk, (Desk.answer q d).2 = d :=
    (Selector.asks_overLines (fun _ _ _ => .inl rfl) (fun _ _ => .inr fun _ => rfl) primary fallback
      Topic.loanEvents e.encode).andThen fun _ => .ask (.inr fun _ => rfl) .done
  refine ⟨Procedure.run_beside_fst idle, fun w => ?_, fun w => by rw [told]; rfl⟩
  obtain ⟨passage, named, tried, inTurn, came⟩ :=
    Selector.publish_passage (Desk.over carriers) primary fallback Topic.loanEvents e.encode w
  refine ⟨[passage], ?_, List.forall_mem_singleton.mpr inTurn, ?_⟩
  · rw [tape, List.filterMap_append, tried, List.flatMap_singleton]
    exact List.append_nil _
  · rw [told, List.map_singleton, List.map_singleton, named, ← came]
    rfl

end Emission

/-! ## Relays -/

/-- Two procedures that ask the same of the desk for itself; but where the first one records an event,
the second one has something that stands for it. -/
inductive Relays {α : Type} (emits : Event → Procedure Unit → Prop) :
    Procedure α → Procedure α → Prop
  | done (a : α) : Relays emits (.done a) (.done a)
  | ask {q : Request} {next next' : q.Answer → Procedure α} (own : q.isOwn = true)
      (rest : ∀ a, Relays emits (next a) (next' a)) : Relays emits (.ask q next) (.ask q next')
  | tell {e : Event} {p : Procedure Unit} {next : Unit → Procedure α} {next' : Procedure α}
      (emits_ : emits e p) (rest : Relays emits (next ()) next') :
      Relays emits (.ask (.record e) next) (p.andThen fun _ => next')

namespace Relays

variable {α β : Type} {emits : Event → Procedure Unit → Prop}

theorem of_asks {p : Procedure α} (own : p.Asks fun q => q.isOwn = true) : Relays emits p p := by
  induction own with
  | done a => exact .done a
  | ask own _ ih => exact .ask own ih

theorem andThen {p p' : Procedure α} {f f' : α → Procedure β} (h : Relays emits p p')
    (rest : ∀ a, Relays emits (f a) (f' a)) : Relays emits (p.andThen f) (p'.andThen f') := by
  induction h with
  | done a => exact rest a
  | ask own _ ih => exact .ask own ih
  | tell emits_ _ ih =>
    rw [Procedure.andThen_assoc]
    exact .tell emits_ ih

theorem within {span : Span} (marked : ∀ e p, emits e p → emits e (p.within span)) {p p' : Procedure α}
    (h : Relays emits p p') : Relays emits (p.within span) (p'.within span) := by
  induction h with
  | done a => exact .done a
  | @ask q next next' own _ ih =>
    cases q with
    | note n mark => cases mark <;> exact .ask own ih
    | _ => exact .ask own ih
  | tell emits_ _ ih =>
    rw [Procedure.andThen_within]
    exact .tell (marked _ _ emits_) ih

theorem mapM {ι : Type} {f f' : ι → Procedure α} (each : ∀ i, Relays emits (f i) (f' i))
    (items : List ι) : Relays emits (items.mapM f) (items.mapM f') := by
  induction items with
  | nil => exact .done _
  | cons i rest ih =>
    rw [Procedure.mapM_cons, Procedure.mapM_cons]
    exact (each i).andThen fun _ => ih.andThen fun _ => .done _

end Relays

/-! ## Dispatchers -/

section Dispatchers

variable {emits : Event → Procedure Unit → Prop} {emit : EventSink}
  (each : ∀ e, emits e (emit e))
include each

theorem relays_epilogue (v : Verdict) :
    Relays emits (v.epilogue recordingSink) (v.epilogue emit) := by
  have told (event : Time.Instant → Event) {notice : Notice} (own : notice.isOwn = true) :
      Relays emits
        (Procedure.ask .readClock fun now => (recordingSink (event now)).andThen fun _ =>
          .ask (.note notice none) fun _ => .done v.answer)
        (.ask .readClock fun now => (emit (event now)).andThen fun _ =>
          .ask (.note notice none) fun _ => .done v.answer) :=
    .ask rfl fun now => .tell (each _) (.ask own fun _ => .done _)
  cases v with
  | failed f => exact .done _
  | settledBefore loan => exact .done _
  | lent loan taken => exact told _ rfl
  | returned loan remaining => exact told _ rfl

theorem relays_errand (e : Errand) :
    Relays emits (e.procedure recordingSink) (e.procedure emit) := by
  rw [Errand.procedure_eq, Errand.procedure_eq]
  cases behind : e.section? with
  | error f => exact .done _
  | ok p =>
    have inner : p.Asks fun q => q.isOwn = true :=
      (Lending.section_inner behind).mono fun _ sober => Lending.isOwn_of_isSober sober
    exact .ask rfl fun _ => (Relays.of_asks inner).andThen fun v =>
      .ask rfl fun _ => relays_epilogue each v

theorem relays_handle (policy : RetryPolicy) (c : Command) :
    Relays emits (Dispatcher.handle ⟨recordingSink, policy⟩ c)
      (Dispatcher.handle ⟨emit, policy⟩ c) := by
  rcases Dispatcher.known_or_unknown c with ⟨e, known⟩ | unknown
  · rw [Dispatcher.handle_eq known, Dispatcher.handle_eq known]
    exact (relays_errand each e).andThen fun r =>
      .of_asks (Lending.asks_closing (fun _ own => own) policy r)
  · rw [Dispatcher.handle_of_unknown unknown, Dispatcher.handle_of_unknown unknown]
    exact .ask rfl fun _ => .done _

/-- A dispatcher relays what another one records, whatever it is given. -/
theorem relays_job (marked : ∀ span e p, emits e p → emits e (p.within span)) (policy : RetryPolicy)
    (job : Lending.Job) :
    Relays emits (Dispatcher.carryOut ⟨recordingSink, policy⟩ job)
      (Dispatcher.carryOut ⟨emit, policy⟩ job) := by
  cases job with
  | call c => exact relays_handle each policy c
  | message body =>
    show Relays emits (Dispatcher.dispatch _ body) (Dispatcher.dispatch _ body)
    rw [Dispatcher.dispatch, Dispatcher.dispatch]
    cases Command.decode? body with
    | none => exact .ask rfl fun _ => .done _
    | some c => exact (relays_handle each policy c).within (marked _)

end Dispatchers

/-! ## Runs -/

/-- What the desk asks for itself neither looks at the record nor changes it. -/
theorem Desk.answer_of_isOwn {q : Request} (own : q.isOwn = true) (d : Desk) (record : List Event) :
    Desk.answer q { d with events := record } =
        ((Desk.answer q d).1, { (Desk.answer q d).2 with events := record }) ∧
      (Desk.answer q d).2.events = d.events := by
  cases q with
  | store c =>
    have noted := (Desk.answerStore_frame c d).2.1
    have here := Desk.answerStore_eq_silent c d
    have there : Desk.answerStore c { d with events := record } =
        ((Desk.answerStore c d.silent).1, (Desk.answerStore c d.silent).2.after record) :=
      Desk.answerStore_eq_silent c { d with events := record }
    have none_ : (Desk.answerStore c d.silent).2.events = [] :=
      (Desk.answerStore_frame c d.silent).2.1
    refine ⟨?_, noted⟩
    show Desk.answerStore c _ =
      ((Desk.answerStore c d).1, { (Desk.answerStore c d).2 with events := record })
    rw [there, here]
    simp only [Desk.after, none_, List.append_nil]
  | enterGate | leaveGate | readClock | note => exact ⟨rfl, rfl⟩
  | _ => exact absurd own Bool.false_ne_true

/-- Whatever the lines do, the procedure that publishes comes to the same as the one that records, and
leaves the same desk but for the record; and what was recorded is what it tells of on its tape. -/
theorem Relays.run {α γ : Type} {carriers : Surroundings γ} {hasPrimary hasFallback : Bool}
    {p p' : Procedure α} (h : Relays (Emits carriers hasPrimary hasFallback) p p') (d : Desk) (g : γ)
    (record : List Event) :
    let out := p'.run (Desk.over carriers) (d, g)
    let tape := p'.tape (Desk.over carriers) (d, g)
    p.run Desk.answer { d with events := record } =
        (out.1, { out.2.1 with events := record ++ (tape.filterMap Exchange.told?).map Prod.fst }) ∧
      out.2.1.events = d.events ∧ Accounts hasPrimary hasFallback tape := by
  induction h generalizing d g record with
  | done a =>
    refine ⟨?_, rfl, .nil⟩
    show (a, _) = (a, { d with events := record ++ [] })
    rw [List.append_nil]
  | @ask q next next' own _ ih =>
    obtain ⟨answered, kept⟩ := Desk.answer_of_isOwn own d record
    have near : Desk.over carriers q (d, g) = ((Desk.answer q d).1, ((Desk.answer q d).2, g)) :=
      Surroundings.beside_near (Request.isSend_of_isOwn own) (d, g)
    obtain ⟨same, quiet, accounts⟩ := ih (Desk.answer q d).1 (Desk.answer q d).2 g record
    simp only [Procedure.run, Procedure.tape, near, answered]
    rw [List.filterMap_cons_none (Exchange.told?_of_isOwn own _)]
    exact ⟨same, quiet.trans kept, (Accounts.single own _).append accounts⟩
  | @tell e p next next' emission _ ih =>
    -- The record grows by the event, and the lines do something; the desk stays where it is.
    obtain ⟨g', left_⟩ : ∃ g', (p.run (Desk.over carriers) (d, g)).2 = (d, g') :=
      ⟨(p.run (Desk.over carriers) (d, g)).2.2, Prod.ext (emission.idle (d, g)) rfl⟩
    obtain ⟨same, quiet, accounts⟩ := ih d g' (record ++ [e])
    rw [Procedure.run_andThen, Procedure.tape_andThen, left_]
    refine ⟨?_, quiet, (emission.accounts (d, g)).append accounts⟩
    rw [List.filterMap_append, List.map_append, emission.told (d, g), ← List.append_assoc, ← same]
    rfl

end Circulation
