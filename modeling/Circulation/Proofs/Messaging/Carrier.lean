/- # Circulation.Proofs.Messaging.Carrier -- the ways a message can go

A selector may have a primary transport and a fallback. Here both are black boxes that hand every
message to the surroundings, which take it or refuse it as they like, differently each time. The
attempts to hand over a message (`Trial`) can then be read off the tape of a run. A message's passage
(`Passage`) is which of the two it was offered to, and with what success; publishing makes the passage
that the selector allows (`publish_passage`) and answers with what it came to.
-/
import Circulation.Messaging.Publisher
import Circulation.Proofs.Tape
import Circulation.Store.Desk

namespace Circulation

/-! ## Lines and trials -/

/-- One of the two ways. -/
inductive Line where
  | primary
  | fallback
deriving DecidableEq

namespace Line

/-- The name under which the surroundings know a line. -/
def key : Line → String
  | primary => "primary"
  | fallback => "fallback"

/-- A message is handed to the line. -/
def offer (line : Line) (topic : String) (body : Bytes) : Procedure (Except TransportError Unit) :=
  Procedure.request (.send line.key topic body)

/-- The transport over a line, which may call itself anything. -/
def transport (line : Line) (name : String) : Transport := ⟨name, line.offer⟩

theorem run_offer {σ : Type} (answer : Surroundings σ) (line : Line) (topic : String) (body : Bytes)
    (s : σ) : (line.offer topic body).run answer s = answer (.send line.key topic body) s := rfl

theorem tape_offer {σ : Type} (answer : Surroundings σ) (line : Line) (topic : String) (body : Bytes)
    (s : σ) : (line.offer topic body).tape answer s =
      [⟨.send line.key topic body, (answer (.send line.key topic body) s).1⟩] := rfl

/-- The line that has a name. -/
def ofKey? (key : String) : Option Line :=
  [primary, fallback].find? fun line => line.key = key

end Line

/-- A message on a topic is offered to a line. -/
structure Trial where
  line : Line
  message : String × Bytes
  accepted : Bool
deriving DecidableEq

/-- The offer that an exchange is, if it is one. -/
def Exchange.trial? : Exchange → Option Trial
  | ⟨.send key topic body, answer⟩ =>
    (Line.ofKey? key).map fun line => ⟨line, (topic, body), answer.isOk⟩
  | _ => none

/-- The messages that a line has taken, in order. -/
def Line.taken (line : Line) (trials : List Trial) : List (String × Bytes) :=
  (trials.filter fun t => t.line = line && t.accepted).map Trial.message

/-- The messages that any line has taken, in order. -/
def Trial.taken (trials : List Trial) : List (String × Bytes) :=
  (trials.filter Trial.accepted).map Trial.message

/-! ## Passages -/

/-- What the lines said to a message, each if it was tried. -/
structure Passage where
  message : String × Bytes
  primary : Option Bool
  fallback : Option Bool

namespace Passage

/-- The attempts of a passage, the primary line first. -/
def trials (p : Passage) : List Trial :=
  (p.primary.map (Trial.mk .primary p.message)).toList ++
    (p.fallback.map (Trial.mk .fallback p.message)).toList

/-- The primary line is tried if there is one, and the fallback if there is one and it is needed. -/
structure InTurn (hasPrimary hasFallback : Bool) (p : Passage) : Prop where
  primary : p.primary.isSome ↔ hasPrimary
  fallback : p.fallback.isSome ↔ hasFallback ∧ p.primary ≠ some true

/-- An outcome says what became of the message. -/
structure Tells (p : Passage) (outcome : PublishOutcome) : Prop where
  primary : outcome = .primary ↔ p.primary = some true
  mirrored : outcome = .mirrored ↔ p.primary = some false ∧ p.fallback = some true
  fallback : outcome = .fallback ↔ p.primary = none ∧ p.fallback = some true
  dropped : outcome = .dropped ↔ p.primary ≠ some true ∧ p.fallback ≠ some true

/-- What a passage comes to. -/
def outcome (p : Passage) : PublishOutcome :=
  match p.primary, p.fallback with
  | some true, _ => .primary
  | some false, some true => .mirrored
  | none, some true => .fallback
  | _, _ => .dropped

theorem tells_outcome (p : Passage) : p.Tells p.outcome := by
  obtain ⟨m, primary, fallback⟩ := p
  rcases primary with _ | _ | _ <;> rcases fallback with _ | _ | _ <;> constructor <;> simp [outcome]

theorem InTurn.not_both {hasPrimary hasFallback : Bool} {p : Passage}
    (h : p.InTurn hasPrimary hasFallback) : p.primary = some true → p.fallback = none :=
  fun took => Option.not_isSome_iff_eq_none.mp fun tried => (h.fallback.mp tried).2 took

/-- A message is taken once if it is not dropped. -/
theorem InTurn.taken {hasPrimary hasFallback : Bool} {p : Passage}
    (h : p.InTurn hasPrimary hasFallback) :
    Trial.taken p.trials = if p.outcome = .dropped then [] else [p.message] := by
  have skipped := h.not_both
  obtain ⟨m, primary, fallback⟩ := p
  rcases primary with _ | _ | _ <;> rcases fallback with _ | _ | _ <;>
    first | rfl | exact absurd (skipped rfl) nofun

end Passage

/-- The messages that were not dropped. -/
def carried (messages : List (String × Bytes)) (outcomes : List PublishOutcome) :
    List (String × Bytes) :=
  ((messages.zip outcomes).filter fun x => x.2 ≠ .dropped).map Prod.fst

theorem carried_cons (m : String × Bytes) (messages : List (String × Bytes)) (o : PublishOutcome)
    (outcomes : List PublishOutcome) :
    carried (m :: messages) (o :: outcomes) =
      (if o = .dropped then [] else [m]) ++ carried messages outcomes := by
  by_cases dropped : o = .dropped <;> simp [carried, dropped]

/-- Where nothing is dropped, everything is carried. -/
theorem carried_of_heard {messages : List (String × Bytes)} {outcomes : List PublishOutcome}
    (each : outcomes.length = messages.length) (heard : ∀ o ∈ outcomes, o ≠ .dropped) :
    carried messages outcomes = messages := by
  have all : ∀ x ∈ messages.zip outcomes, decide (x.2 ≠ .dropped) = true := fun x mem =>
    decide_eq_true (heard x.2 (List.of_mem_zip mem).2)
  rw [carried, List.filter_eq_self.mpr all]
  exact List.map_fst_zip (Nat.le_of_eq each.symm)

theorem Trial.taken_append (before after : List Trial) :
    taken (before ++ after) = taken before ++ taken after := by
  simp [taken]

/-- What the lines have taken between them is what was not dropped. -/
theorem Passage.taken_trials {hasPrimary hasFallback : Bool} {passages : List Passage}
    (inTurn : ∀ p ∈ passages, p.InTurn hasPrimary hasFallback) :
    Trial.taken (passages.flatMap Passage.trials) =
      carried (passages.map Passage.message) (passages.map Passage.outcome) := by
  induction passages with
  | nil => rfl
  | cons p rest ih =>
    obtain ⟨here, later⟩ := List.forall_mem_cons.mp inTurn
    rw [List.flatMap_cons, Trial.taken_append, here.taken, ih later, List.map_cons, List.map_cons,
      carried_cons]

/-! ## What publishing asks -/

/-- Says where a message went when it was published. -/
def Notice.isOfPublishing : Notice → Bool
  | published .. | publishFailed .. | noFallback _ | fallbackFailed .. => true
  | _ => false

namespace Selector

section Asks

variable {P : Request → Prop} {s : Selector}
  (primary : ∀ t ∈ s.primary, ∀ topic body, (t.publish topic body).Asks P)
  (fallback : ∀ t ∈ s.fallback, ∀ topic body, (t.publish topic body).Asks P)
  (notes : ∀ n : Notice, n.isOfPublishing = true → P (.note n none))
include fallback notes

theorem asks_publishFallback (topic : String) (body : Bytes) :
    (s.publishFallback topic body).Asks P := by
  unfold publishFallback
  cases there : s.fallback with
  | none => exact .ask (notes _ rfl) fun _ => .done _
  | some t =>
    refine (fallback t there topic body).andThen fun reply => ?_
    cases reply with
    | ok u => exact .ask (notes _ rfl) fun _ => .done _
    | error e => exact .ask (notes _ rfl) fun _ => .done _

include primary in
/-- To publish is to hand the message to transports, and to say what came of it. -/
theorem asks_publish (topic : String) (body : Bytes) : (s.publish topic body).Asks P := by
  have falls := asks_publishFallback fallback notes topic body
  unfold publish
  cases there : s.primary with
  | none => exact falls.andThen fun _ => .done _
  | some t =>
    refine (primary t there topic body).andThen fun reply => ?_
    cases reply with
    | ok u => exact .ask (notes _ rfl) fun _ => .done _
    | error e => exact .ask (notes _ rfl) fun _ => falls.andThen fun _ => .done _

end Asks

/-! ## Publishing over the lines -/

/-- The selector over black boxes, each if it has a name. -/
def overLines (primary fallback : Option String) : Selector :=
  ⟨primary.map Line.primary.transport, fallback.map Line.fallback.transport⟩

theorem asks_overLines {P : Request → Prop} (sends : ∀ key topic body, P (.send key topic body))
    (notes : ∀ n : Notice, n.isOfPublishing = true → P (.note n none))
    (primary fallback : Option String) (topic : String) (body : Bytes) :
    ((overLines primary fallback).publish topic body).Asks P := by
  have offers (line : Line) (name : Option String) :
      ∀ t ∈ name.map line.transport, ∀ topic body, (t.publish topic body).Asks P := by
    intro t mem topic body
    obtain ⟨n, -, rfl⟩ := Option.map_eq_some_iff.mp mem
    exact .ask (sends _ _ _) .done
  exact asks_publish (offers .primary primary) (offers .fallback fallback) notes topic body

/-- What is left of trying the fallback once it has replied. -/
def afterFallback (name topic : String) : Except TransportError Unit → Procedure Bool
  | .ok () => .ask (.note (.published name topic) none) fun _ => .done true
  | .error e => .ask (.note (.fallbackFailed name topic e) none) fun _ => .done false

/-- What is left of publishing once the primary has replied: after a refusal, the fallback's turn. -/
def afterPrimary (name : String) (fallback : Option String) (topic : String) (body : Bytes) :
    Except TransportError Unit → Procedure PublishOutcome
  | .ok () => .ask (.note (.published name topic) none) fun _ => .done .primary
  | .error e => .ask (.note (.publishFailed name topic e) none) fun _ =>
    ((overLines (some name) fallback).publishFallback topic body).andThen fun took =>
      .done (if took then .mirrored else .dropped)

variable {σ : Type} (answer : Surroundings σ) (primary fallback : Option String)

/-- The fallback is tried once if there is one, and the answer is whether it took the message. -/
theorem publishFallback_trials (topic : String) (body : Bytes) (s : σ) :
    let p := (overLines primary fallback).publishFallback topic body
    ∃ tried : Option Bool, tried.isSome = fallback.isSome ∧
      (p.tape answer s).filterMap Exchange.trial? =
        (tried.map (Trial.mk .fallback (topic, body))).toList ∧
      (p.run answer s).1 = decide (tried = some true) := by
  intro p
  cases fallback with
  | none => exact ⟨none, rfl, rfl, rfl⟩
  | some name =>
    let q : Request := .send Line.fallback.key topic body
    have tries : p = (Line.fallback.offer topic body).andThen (afterFallback name topic) := rfl
    rw [tries, Procedure.tape_andThen, Procedure.run_andThen, Line.run_offer, Line.tape_offer]
    rcases answer q s with ⟨e | u, s'⟩
    · exact ⟨some false, rfl, rfl, rfl⟩
    · exact ⟨some true, rfl, rfl, rfl⟩

/-- A message goes the passage that the selector allows, and the outcome tells which. -/
theorem publish_passage (topic : String) (body : Bytes) (s : σ) :
    let p := (overLines primary fallback).publish topic body
    ∃ passage : Passage, passage.message = (topic, body) ∧
      (p.tape answer s).filterMap Exchange.trial? = passage.trials ∧
      passage.InTurn primary.isSome fallback.isSome ∧ (p.run answer s).1 = passage.outcome := by
  intro p
  cases primary with
  | none =>
    have goes : p = ((overLines none fallback).publishFallback topic body).andThen fun took =>
        .done (if took then .fallback else .dropped) := rfl
    obtain ⟨tried, there, taped, took⟩ := publishFallback_trials answer none fallback topic body s
    refine ⟨⟨(topic, body), none, tried⟩, rfl, ?_, ⟨by simp, by simp [there]⟩, ?_⟩
    · rw [goes, Procedure.tape_andThen_done]
      exact taped
    · rw [goes, Procedure.run_andThen, took]
      rcases tried with _ | _ | _ <;> rfl
  | some name =>
    let q : Request := .send Line.primary.key topic body
    have goes : p =
        (Line.primary.offer topic body).andThen (afterPrimary name fallback topic body) := rfl
    rw [goes, Procedure.tape_andThen, Procedure.run_andThen, Line.run_offer, Line.tape_offer]
    rcases answer q s with ⟨e | u, s'⟩
    · let s₁ := (answer (.note (.publishFailed name topic e) none) s').2
      obtain ⟨tried, there, retried, took⟩ :=
        publishFallback_trials answer (some name) fallback topic body s₁
      have mirrors : ((((overLines (some name) fallback).publishFallback topic body).andThen fun took =>
          .done (if took then .mirrored else .dropped)).run answer s₁).1 =
            Passage.outcome ⟨(topic, body), some false, tried⟩ := by
        rw [Procedure.run_andThen, took]
        rcases tried with _ | _ | _ <;> rfl
      refine ⟨⟨(topic, body), some false, tried⟩, rfl, ?_, ⟨by simp, by simp [there]⟩, mirrors⟩
      rw [List.filterMap_append, afterPrimary, Procedure.tape, Procedure.tape_andThen_done]
      exact congrArg (Trial.mk .primary (topic, body) false :: ·) retried
    · exact ⟨⟨(topic, body), some true, none⟩, rfl, rfl, ⟨by simp, by simp⟩, rfl⟩

/-- Every message of a sequence goes such a passage, after the ones before it. -/
theorem publish_passages (messages : List (String × Bytes)) (s : σ) :
    let p := messages.mapM fun m => (overLines primary fallback).publish m.1 m.2
    ∃ passages : List Passage, passages.map Passage.message = messages ∧
      (p.tape answer s).filterMap Exchange.trial? = passages.flatMap Passage.trials ∧
      (∀ passage ∈ passages, passage.InTurn primary.isSome fallback.isSome) ∧
      (p.run answer s).1 = passages.map Passage.outcome := by
  induction messages generalizing s with
  | nil => exact ⟨[], rfl, rfl, nofun, rfl⟩
  | cons m rest ih =>
    obtain ⟨first, named, taped, inTurn, told⟩ := publish_passage answer primary fallback m.1 m.2 s
    obtain ⟨later, named', taped', inTurn', told'⟩ :=
      ih (((overLines primary fallback).publish m.1 m.2).run answer s).2
    refine ⟨first :: later, ?_, ?_, List.forall_mem_cons.mpr ⟨inTurn, inTurn'⟩, ?_⟩
    · rw [List.map_cons, named, named']
    · rw [Procedure.tape_mapM_cons, List.filterMap_append, taped, taped', List.flatMap_cons]
    · rw [Procedure.run_mapM_cons, told, told', List.map_cons]

theorem taken_of_publish (messages : List (String × Bytes)) (s : σ) :
    let p := messages.mapM fun m => (overLines primary fallback).publish m.1 m.2
    (p.run answer s).1.length = messages.length ∧
      Trial.taken ((p.tape answer s).filterMap Exchange.trial?) =
        carried messages (p.run answer s).1 := by
  intro p
  obtain ⟨passages, rfl, taped, inTurn, told⟩ := publish_passages answer primary fallback messages s
  rw [taped, told, Passage.taken_trials inTurn, List.length_map, List.length_map]
  exact ⟨rfl, rfl⟩

end Selector

/-- Lines that take and refuse messages as planned, and refuse what comes after. -/
def Line.planned : Surroundings (List Bool)
  | .send .., true :: plan => (.ok (), plan)
  | .send .., plan => (.error (.publish ""), plan.tail)
  | q, plan => ((Desk.answer q default).1, plan)

end Circulation
