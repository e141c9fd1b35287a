/- # Circulation.Proofs.Messaging.Session -- nothing is lost or doubled in silence

A session looks for its transports once and then publishes messages. Whatever the connector and the
transports answer, the attempts on its tape are the passages that the connection allows, and the outcomes
account for them: the messages that the two lines have taken, merged by the outcomes, are the messages
published without the dropped ones (`session_accounts`).
-/
import Circulation.Broker.Link
import Circulation.Proofs.Messaging.Carrier
import Circulation.Rehearsal.World
import Mathlib.Data.List.Forall2

namespace Circulation

/-- The connection that an exchange tries, if it tries one, and whether it came about. -/
def Exchange.dialled? : Exchange → Option (String × Bool)
  | ⟨.dial endpoint, answer⟩ => some (endpoint, answer.isOk)
  | _ => none

/-- Two lines' messages put in one order, each next one from the line that the outcome names. -/
def merged : List PublishOutcome → List (String × Bytes) → List (String × Bytes) →
    List (String × Bytes)
  | .primary :: rest, m :: primary, fallback => m :: merged rest primary fallback
  | .mirrored :: rest, primary, m :: fallback => m :: merged rest primary fallback
  | .fallback :: rest, primary, m :: fallback => m :: merged rest primary fallback
  | .dropped :: rest, primary, fallback => merged rest primary fallback
  | _, _, _ => []

/-- What a session has found at the start, and what became of its messages. -/
structure Session where
  selector : Selector
  link : Option String
  outcomes : List PublishOutcome

namespace Selector

/-- The transports are found, and then messages are published over them. -/
def session (endpoint fallback : Option String) (messages : List (String × Bytes)) :
    Procedure Session := do
  let (s, link) ← establish endpoint (fun url => Procedure.request (.dial url)) Line.primary.transport
    (fallback.map Line.fallback.transport)
  let outcomes ← messages.mapM fun m => s.publish m.1 m.2
  return ⟨s, link, outcomes⟩

variable {σ : Type} (answer : Surroundings σ)

theorem establish_dial (endpoint fallback : Option String) (s : σ) :
    let p := establish endpoint (fun url => Procedure.request (.dial url)) Line.primary.transport
      (fallback.map Line.fallback.transport)
    ∃ link : Option String, (p.run answer s).1 = (overLines link fallback, link) ∧
      (p.tape answer s).filterMap Exchange.trial? = [] ∧
      (p.tape answer s).filterMap Exchange.dialled? =
        ((endpoint.filter fun e => !Text.allBlank e).map (·, link.isSome)).toList ∧
      (endpoint.filter (fun e => !Text.allBlank e) = none → link = none) := by
  intro p
  cases there : endpoint.filter fun e => !Text.allBlank e with
  | none =>
    have noted : p = .ask (.note .noEndpoint none) fun _ => .done (overLines none fallback, none) := by
      simp only [p, establish, there]
      rfl
    rw [noted]
    exact ⟨none, rfl, rfl, rfl, fun _ => rfl⟩
  | some url =>
    let connect : Procedure (Except TransportError String) := Procedure.request (.dial url)
    have dials : p = connect.andThen fun reply =>
        match reply with
        | .ok link => .ask (.note (.brokerReady link) none) fun _ =>
          .done (overLines (some link) fallback, some link)
        | .error e => .ask (.note (.brokerUnavailable e) none) fun _ =>
          .done (overLines none fallback, none) := by
      simp only [p, establish, there]
      refine congrArg connect.andThen (funext fun reply => ?_)
      cases reply <;> rfl
    rw [dials, Procedure.tape_andThen, Procedure.run_andThen, Procedure.run_request,
      Procedure.tape_request]
    rcases answer (.dial url) s with ⟨e | link, s'⟩
    · exact ⟨none, rfl, rfl, rfl, fun _ => rfl⟩
    · exact ⟨some link, rfl, rfl, rfl, nofun⟩

end Selector

theorem Line.taken_append (line : Line) (before after : List Trial) :
    line.taken (before ++ after) = line.taken before ++ line.taken after := by
  simp [taken]

/-- Messages that went in turn are put in order by what became of them. -/
theorem merged_trials {hasPrimary hasFallback : Bool} {passages : List Passage}
    (inTurn : ∀ p ∈ passages, p.InTurn hasPrimary hasFallback) :
    let trials := passages.flatMap Passage.trials
    merged (passages.map Passage.outcome) (Line.primary.taken trials) (Line.fallback.taken trials) =
      carried (passages.map Passage.message) (passages.map Passage.outcome) := by
  intro trials
  induction passages with
  | nil => rfl
  | cons p rest ih =>
    obtain ⟨here, later⟩ := List.forall_mem_cons.mp inTurn
    have trials_ : trials = p.trials ++ rest.flatMap Passage.trials := List.flatMap_cons
    rw [trials_, Line.taken_append, Line.taken_append, List.map_cons, List.map_cons, carried_cons,
      ← ih later]
    have skipped := here.not_both
    obtain ⟨m, primary, fallback⟩ := p
    rcases primary with _ | _ | _ <;> rcases fallback with _ | _ | _ <;>
      first | rfl | exact absurd (skipped rfl) nofun

namespace Broker

/-- Publisher confirms. Once they are enabled on a channel they stay so, and then the broker says of every
message on it whether it has taken it; `enabled` tells the channels on which they are. -/
structure Confirms {σ : Type} (answer : Surroundings σ) (enabled : Channel → σ → Prop) : Prop where
  selected : ∀ channel s, (answer (.broker (.confirmSelect channel)) s).1 = .ok () →
    enabled channel (answer (.broker (.confirmSelect channel)) s).2
  kept : ∀ channel q s, enabled channel s → enabled channel (answer q s).2
  told : ∀ channel s, enabled channel s →
    (answer (.broker (.awaitConfirmation channel)) s).1 ≠ .ok .notRequested

section Connect

variable {σ α : Type} {answer : Surroundings σ}

/-- What goes on after a first part has a result only if that part has one. -/
theorem bind_of_ok {ε β : Type} {x : Attempt ε α} {f : α → Attempt ε β} {s : σ} {b : β}
    (done_ : ((x >>= f).run.run answer s).1 = .ok b) :
    ∃ a, (x.run.run answer s).1 = .ok a ∧
      (x >>= f).run.run answer s = (f a).run.run answer (x.run.run answer s).2 := by
  have parts : (x >>= f).run.run answer s =
      (ExceptT.bindCont f (x.run.run answer s).1).run answer (x.run.run answer s).2 :=
    Procedure.run_andThen answer x.run (ExceptT.bindCont f) s
  rw [parts] at done_ ⊢
  cases first : (x.run.run answer s).1 with
  | error e =>
    rw [first] at done_
    cases done_
  | ok a => exact ⟨a, rfl, rfl⟩

theorem run_attempt (wrap : String → TransportError) (what : String) (c : Call) (s : σ) :
    (attempt wrap what c).run.run answer s =
      ((answer (.broker c) s).1.mapError fun cause => wrap (what ++ ": " ++ cause),
        (answer (.broker c) s).2) := by
  show (((Procedure.done (answer (.broker c) s).1).andThen _).run answer (answer (.broker c) s).2) = _
  cases (answer (.broker c) s).1 <;> rfl

theorem answer_of_attempt {wrap : String → TransportError} {what : String} {c : Call} {s : σ}
    {result : c.Result} (done_ : ((attempt wrap what c).run.run answer s).1 = .ok result) :
    (answer (.broker c) s).1 = .ok result := by
  rw [run_attempt] at done_
  generalize (answer (.broker c) s).1 = reply at done_ ⊢
  cases reply with
  | error cause => cases done_
  | ok other => exact congrArg Except.ok (Except.ok.inj done_)

/-- A link that was made by connecting has its confirms enabled. -/
theorem Link.enabled_of_connect {enabled : Channel → σ → Prop} (confirms : Confirms answer enabled)
    {url : String} {s : σ} {link : Link} (connected : ((connect url).run.run answer s).1 = .ok link) :
    enabled link.channel ((connect url).run.run answer s).2 := by
  unfold connect at connected ⊢
  obtain ⟨_, -, opened⟩ := bind_of_ok connected
  rw [opened] at connected ⊢
  obtain ⟨channel, -, created⟩ := bind_of_ok connected
  rw [created] at connected ⊢
  obtain ⟨_, asked, selected⟩ := bind_of_ok connected
  rw [selected] at connected ⊢
  have enabled_ := confirms.selected channel _ (answer_of_attempt asked)
  rw [run_attempt] at connected ⊢
  -- From here on nothing disables them, and the channel is the one of the link.
  have same : link.channel = channel := by
    obtain ⟨_, -, declared⟩ := bind_of_ok connected
    rw [declared] at connected
    cases connected
    rfl
  rw [same]
  exact Procedure.run_keeps (confirms.kept channel) _ enabled_

end Connect

section Publish

namespace Link

/-- What is left of publishing once the broker has spoken. -/
def afterWord (topic : String) : Except String Confirmation → Procedure (Except TransportError Unit)
  | .ok word =>
    .done (if word.isNack then .error (.publish ("Broker rejected message on " ++ topic)) else .ok ())
  | .error cause => .done (.error (.publish ("Publish confirmation failed" ++ ": " ++ cause)))

/-- What is left of publishing once the message is handed in: to wait for a word on it. -/
def afterHandIn (link : Link) (topic : String) :
    Except String Unit → Procedure (Except TransportError Unit)
  | .ok () => (Procedure.request (.broker (.awaitConfirmation link.channel))).andThen (afterWord topic)
  | .error cause => .done (.error (.publish ("Failed to publish" ++ ": " ++ cause)))

theorem publish_eq (link : Link) (topic : String) (body : Bytes) :
    link.transport.publish topic body =
      (Procedure.request (.broker (.publish link.channel (publication topic body)))).andThen
        (link.afterHandIn topic) := by
  refine congrArg (Procedure.request _).andThen (funext fun reply => ?_)
  cases reply with
  | error cause => rfl
  | ok u =>
    refine congrArg (Procedure.request _).andThen (funext fun reply => ?_)
    rcases reply with cause | word
    · rfl
    · cases word <;> rfl

end Link

variable {σ : Type} (answer : Surroundings σ) (link : Link) (topic : String) (body : Bytes) (s : σ)

/-- To publish over a broker is to hand the message in, and then, if that goes well, to wait for a word on
it. -/
theorem Link.publish_cases :
    let p := link.transport.publish topic body
    let handIn : Call := .publish link.channel (publication topic body)
    let wait : Call := .awaitConfirmation link.channel
    (∃ cause, p.tape answer s = [⟨.broker handIn, .error cause⟩] ∧ (p.run answer s).1 ≠ .ok ()) ∨
      ∃ reply, (answer (.broker wait) (answer (.broker handIn) s).2).1 = reply ∧
        p.tape answer s = [⟨.broker handIn, .ok ()⟩, ⟨.broker wait, reply⟩] ∧
        ((p.run answer s).1 = .ok () ↔ ∃ word, word ≠ .nack ∧ reply = .ok word) := by
  intro p handIn wait
  have calls : p = (Procedure.request (.broker handIn)).andThen (link.afterHandIn topic) :=
    link.publish_eq topic body
  rw [calls, Procedure.tape_andThen, Procedure.run_andThen, Procedure.run_request,
    Procedure.tape_request]
  rcases answer (.broker handIn) s with ⟨cause | u, s'⟩
  · exact .inl ⟨cause, rfl, nofun⟩
  · simp only [afterHandIn]
    rw [Procedure.tape_andThen, Procedure.run_andThen, Procedure.run_request, Procedure.tape_request]
    rcases answer (.broker wait) s' with ⟨cause | word, s''⟩
    · exact .inr ⟨_, rfl, rfl, nofun, by simp⟩
    · cases word with
      | ack => exact .inr ⟨_, rfl, rfl, fun _ => ⟨.ack, nofun, rfl⟩, fun _ => rfl⟩
      | nack => exact .inr ⟨_, rfl, rfl, nofun, by simp⟩
      | notRequested => exact .inr ⟨_, rfl, rfl, fun _ => ⟨.notRequested, nofun, rfl⟩, fun _ => rfl⟩

/-- Over a broker, a message is handed in once, and accepted is what the broker has not refused. -/
theorem Link.publish_unrefused :
    let p := link.transport.publish topic body
    let handIn : Call := .publish link.channel (publication topic body)
    let wait : Call := .awaitConfirmation link.channel
    (p.asked answer s = [.broker handIn] ∨ p.asked answer s = [.broker handIn, .broker wait]) ∧
      ((p.run answer s).1 = .ok () ↔ ∃ word, word ≠ .nack ∧
        p.tape answer s = [⟨.broker handIn, .ok ()⟩, ⟨.broker wait, .ok word⟩]) := by
  intro p handIn wait
  unfold Procedure.asked
  rcases link.publish_cases answer topic body s with ⟨cause, tape, fails⟩ | ⟨reply, -, tape, accepted⟩
  · rw [tape]
    exact ⟨.inl rfl, fun ok => absurd ok fails, by simp⟩
  · rw [tape, accepted]
    exact ⟨.inr rfl, by simp [handIn, wait]⟩

/-- Where confirms are enabled, accepted is what the broker has confirmed. -/
theorem Link.publish_confirmed {enabled : Channel → σ → Prop} (confirms : Confirms answer enabled)
    (on : enabled link.channel s) :
    let p := link.transport.publish topic body
    (p.run answer s).1 = .ok () ↔
      p.tape answer s = [⟨.broker (.publish link.channel (publication topic body)), .ok ()⟩,
        ⟨.broker (.awaitConfirmation link.channel), .ok .ack⟩] := by
  intro p
  have told := confirms.told link.channel _ (confirms.kept link.channel
    (.broker (.publish link.channel (publication topic body))) s on)
  rcases link.publish_cases answer topic body s with ⟨cause, tape, fails⟩ | ⟨reply, rfl, tape, accepted⟩
  · rw [tape]
    exact ⟨fun ok => absurd ok fails, by simp⟩
  · rw [tape, accepted]
    generalize (answer (.broker (.awaitConfirmation link.channel)) _).1 = reply at told
    constructor
    · rintro ⟨word, accepts, rfl⟩
      cases word with
      | ack => rfl
      | nack => exact absurd rfl accepts
      | notRequested => exact absurd rfl told
    · intro same
      exact ⟨.ack, nofun, by simpa using same⟩

end Publish

end Broker

namespace Selector

variable {σ : Type} (answer : Surroundings σ)

/-- A session's attempts: one connection at most, and then a passage for each message. -/
theorem session_passages (endpoint fallback : Option String) (messages : List (String × Bytes))
    (s : σ) :
    let p := session endpoint fallback messages
    let given := endpoint.filter fun e => !Text.allBlank e
    ∃ (link : Option String) (passages : List Passage),
      (p.run answer s).1 = ⟨overLines link fallback, link, passages.map Passage.outcome⟩ ∧
      (p.tape answer s).filterMap Exchange.dialled? = (given.map (·, link.isSome)).toList ∧
      (given = none → link = none) ∧
      (p.tape answer s).filterMap Exchange.trial? = passages.flatMap Passage.trials ∧
      passages.map Passage.message = messages ∧
      ∀ passage ∈ passages, passage.InTurn link.isSome fallback.isSome := by
  intro p given
  let starts := establish endpoint (fun url => Procedure.request (.dial url)) Line.primary.transport
    (fallback.map Line.fallback.transport)
  have parts : p = starts.andThen fun x => (messages.mapM fun m => x.1.publish m.1 m.2).andThen
      fun outcomes => .done ⟨x.1, x.2, outcomes⟩ := rfl
  let s₁ := (starts.run answer s).2
  obtain ⟨link, start, noTrial, dial, nothing⟩ := establish_dial answer endpoint fallback s
  let publishes := messages.mapM fun m => (overLines link fallback).publish m.1 m.2
  have noDial : (publishes.tape answer s₁).filterMap Exchange.dialled? = [] :=
    (Procedure.Asks.mapM (fun m => asks_overLines (fun _ _ _ _ => rfl) (fun _ _ _ => rfl) link fallback
      m.1 m.2) messages).filterMap_tape s₁
  obtain ⟨passages, named, taped, inTurn, told⟩ := publish_passages answer link fallback messages s₁
  have tape : p.tape answer s = starts.tape answer s ++ publishes.tape answer s₁ := by
    rw [parts, Procedure.tape_andThen, Procedure.tape_andThen_done, start]
  refine ⟨link, passages, ?_, ?_, nothing, ?_, named, inTurn⟩
  · rw [parts, Procedure.run_andThen, start, Procedure.run_andThen, told]
    rfl
  · rw [tape, List.filterMap_append, dial, noDial, List.append_nil]
  · rw [tape, List.filterMap_append, noTrial, taped, List.nil_append]

/-- Whatever the connector and the transports answer. The connector is called if there is an address,
once and with that very text; a message is offered to each line once or not at all, unchanged and in
turn, and the outcome tells who took it; so the messages that the lines have taken, merged by the
outcomes, are the messages published without the dropped ones. Over a broker a message is handed in once,
and taken is what the broker does not refuse. Connecting enables confirms, and where they are enabled, to
take a message is to confirm it. -/
theorem session_accounts (endpoint fallback : Option String) (messages : List (String × Bytes))
    (s : σ) :
    let p := session endpoint fallback messages
    let dialled := (p.tape answer s).filterMap Exchange.dialled?
    let trials := (p.tape answer s).filterMap Exchange.trial?
    let connected := dialled.any Prod.snd
    let found := (p.run answer s).1
    dialled.map Prod.fst = (endpoint.filter fun e => !Text.allBlank e).toList ∧
      (found.selector.mode = .primaryActive ↔ connected) ∧ (found.link.isSome ↔ connected) ∧
      (∃ passages : List Passage, passages.map Passage.message = messages ∧
        trials = passages.flatMap Passage.trials ∧
        (∀ passage ∈ passages, passage.InTurn connected fallback.isSome) ∧
        List.Forall₂ Passage.Tells passages found.outcomes) ∧
      merged found.outcomes (Line.primary.taken trials) (Line.fallback.taken trials) =
        carried messages found.outcomes ∧
      (∀ (link : Broker.Link) (topic : String) (body : Bytes) (s : σ),
        let p := link.transport.publish topic body
        let handIn : Broker.Call := .publish link.channel (Broker.Link.publication topic body)
        let wait : Broker.Call := .awaitConfirmation link.channel
        (p.asked answer s = [.broker handIn] ∨ p.asked answer s = [.broker handIn, .broker wait]) ∧
          ((p.run answer s).1 = .ok () ↔ ∃ word, word ≠ .nack ∧
            p.tape answer s = [⟨.broker handIn, .ok ()⟩, ⟨.broker wait, .ok word⟩])) ∧
      ∀ enabled : Broker.Channel → σ → Prop, Broker.Confirms answer enabled →
        (∀ (url : String) (s : σ) (link : Broker.Link),
          ((Broker.Link.connect url).run.run answer s).1 = .ok link →
            enabled link.channel ((Broker.Link.connect url).run.run answer s).2) ∧
        ∀ (link : Broker.Link) (topic : String) (body : Bytes) (s : σ), enabled link.channel s →
          let p := link.transport.publish topic body
          (p.run answer s).1 = .ok () ↔
            p.tape answer s =
              [⟨.broker (.publish link.channel (Broker.Link.publication topic body)), .ok ()⟩,
                ⟨.broker (.awaitConfirmation link.channel), .ok .ack⟩] := by
  intro p dialled trials connected found
  obtain ⟨link, passages, found_, dial, nothing, taped, named, inTurn⟩ :=
    session_passages answer endpoint fallback messages s
  have connected_ : connected = link.isSome := by
    simp only [connected, dialled, p, dial]
    cases given : endpoint.filter fun e => !Text.allBlank e with
    | none => rw [nothing given]; rfl
    | some url => exact Bool.or_false _
  have outcomes : found.outcomes = passages.map Passage.outcome := congrArg Session.outcomes found_
  have mode : found.selector.mode = .primaryActive ↔ link.isSome := by
    simp only [found, p, found_, mode, overLines, Option.isSome_map]
    cases link <;> simp
  refine ⟨?_, ?_, ?_, ⟨passages, named, taped, ?_, ?_⟩, ?_, Broker.Link.publish_unrefused answer,
    fun enabled confirms => ⟨fun url s link => Broker.Link.enabled_of_connect confirms,
      fun link topic body s on => link.publish_confirmed answer topic body s confirms on⟩⟩
  · simp only [dialled, p, dial]
    cases endpoint.filter fun e => !Text.allBlank e <;> rfl
  · rw [connected_]
    exact mode
  · rw [connected_]
    simp only [found, p, found_]
  · rw [connected_]
    exact inTurn
  · rw [outcomes, List.forall₂_map_right_iff, List.forall₂_same]
    exact fun passage _ => passage.tells_outcome
  · have merged_ := merged_trials inTurn
    rw [named] at merged_
    rw [outcomes, ← merged_]
    simp only [trials, p, taped]

/-- In a world to rehearse confirms are enabled everywhere. -/
theorem confirms_world : Broker.Confirms Rehearsal.World.answer fun _ _ => True where
  selected := fun _ _ _ => trivial
  kept := fun _ _ _ _ => trivial
  told := by
    intro channel w _ silent
    have reply : (Rehearsal.World.answer (.broker (.awaitConfirmation channel)) w).1 =
        (w.broker.answer (.awaitConfirmation channel)).1 := rfl
    rw [reply, Rehearsal.BrokerStandIn.answer] at silent
    cases mode : w.broker.confirms <;> simp [mode] at silent

/-- There a session over two lines publishes two messages; and when a link to the broker is made and a
message published over it, the broker has confirmed the message. -/
theorem session_accounts_world :
    let answer := Rehearsal.World.answer
    let w := Rehearsal.World.fresh ⟨0, 0⟩ []
    let messages := [("loan-events", [1]), ("loan-events", [2])]
    let p := session (some "amqp://localhost") (some "redis") messages
    let trials := (p.tape answer w).filterMap Exchange.trial?
    let connects := (Broker.Link.connect Rehearsal.BrokerStandIn.address).run
    let link : Broker.Link := ⟨0⟩
    let publishes := link.transport.publish "loan-events" [3]
    (p.run answer w).1.outcomes = [.primary, .primary] ∧
      merged (p.run answer w).1.outcomes (Line.primary.taken trials) (Line.fallback.taken trials) =
        carried messages (p.run answer w).1.outcomes ∧
      (connects.run answer w).1 = .ok link ∧
      publishes.tape answer (connects.run answer w).2 =
        [⟨.broker (.publish 0 (Broker.Link.publication "loan-events" [3])), .ok ()⟩,
          ⟨.broker (.awaitConfirmation 0), .ok .ack⟩] := by
  intro answer w messages p trials connects link publishes
  obtain ⟨-, -, -, -, merged_, -, broker⟩ :=
    session_accounts answer (some "amqp://localhost") (some "redis") messages w
  obtain ⟨enabled, confirmed⟩ := broker _ confirms_world
  have connected : (connects.run answer w).1 = .ok link := by decide +kernel
  have published : (publishes.run answer (connects.run answer w).2).1 = .ok () := by decide +kernel
  refine ⟨by decide +kernel, merged_, connected, ?_⟩
  exact (confirmed link "loan-events" [3] _ (enabled _ w link connected)).mp published

end Selector

end Circulation
