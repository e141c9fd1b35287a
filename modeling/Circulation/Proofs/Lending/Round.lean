/- # Circulation.Proofs.Lending.Round -- messages that are answered one after another

Whoever works off messages dispatches each of them where the one before it has left the surroundings. A
round is one message with the moment at which it is dispatched (`Dispatcher.rounds`); what all rounds
together come to is the fold of the dispatches (`Dispatcher.afterAll`).

What a dispatch asks is asked by the desk for itself, or by its sink (`Dispatcher.asks_dispatch`).
-/
import Circulation.Proofs.Lending.Delivery
import Circulation.Proofs.Lending.Disposition

namespace Circulation

/-! ## What the desk asks for itself -/

/-- Given by the desk when it answers a command. -/
def Notice.isOwn : Notice → Bool
  | badCommand | unknownCommandKind | commandFailed .. | inventoryNotDecremented .. | loanCreated ..
  | loanAlreadySettled .. | returnedBookGone _ | bookFullyStocked .. | loanReturned .. => true
  | _ => false

/-- Asked by the desk when it answers a command, and not by its sink. -/
def Request.isOwn : Request → Bool
  | enterGate | leaveGate | readClock | store _ => true
  | note n _ => n.isOwn
  | _ => false

namespace Lending

theorem isOwn_of_isSober {q : Request} (h : isSober q = true) : q.isOwn = true := by
  cases q with
  | note n s => cases n <;> first | rfl | exact absurd h Bool.false_ne_true
  | store c => rfl
  | readClock => rfl
  | _ => exact absurd h Bool.false_ne_true

section Asks

variable {P : Request → Prop} {emit : EventSink} (own : ∀ q : Request, q.isOwn = true → P q)
include own

theorem Verdict.asks_epilogue (sink : ∀ ev, (emit ev).Asks P) (v : Verdict) :
    (v.epilogue emit).Asks P := by
  have told (event : Time.Instant → Event) {notice : Notice} (mine : notice.isOwn = true) :
      (Procedure.ask .readClock fun now => (emit (event now)).andThen fun _ =>
        .ask (.note notice none) fun _ => .done v.answer).Asks P :=
    .ask (own _ rfl) fun now => (sink _).andThen fun _ => .ask (own _ mine) fun _ => .done _
  cases v with
  | failed f => exact .done _
  | settledBefore loan => exact .done _
  | lent loan taken => exact told _ rfl
  | returned loan remaining => exact told _ rfl

theorem Errand.asks (sink : ∀ ev, (emit ev).Asks P) (e : Errand) : (e.procedure emit).Asks P := by
  rw [Errand.procedure_eq]
  cases behind : e.section? with
  | error f => exact .done _
  | ok p =>
    have section_ : p.Asks P :=
      (section_inner behind).mono fun q sober => own q (isOwn_of_isSober sober)
    exact .ask (own _ rfl) fun _ => section_.andThen fun v =>
      .ask (own _ rfl) fun _ => v.asks_epilogue own sink

theorem asks_closing (policy : RetryPolicy) (r : Except Failure Served) : (closing policy r).Asks P := by
  cases r with
  | ok o => exact .done _
  | error f => exact .ask (own _ rfl) fun _ => .done _

end Asks

namespace Dispatcher

/-- A command of a known kind is its call, and then its disposition. -/
theorem handle_eq {d : Dispatcher} {c : Command} {e : Errand} (known : e.Of c) :
    d.handle c = (e.procedure d.emit).andThen (closing d.policy) := by
  cases e with
  | borrow c' =>
    obtain ⟨rfl, kind⟩ := known
    rw [handle, kind]
    exact conclude_eq _ _ Served.lent
  | giveBack c' =>
    obtain ⟨rfl, kind⟩ := known
    rw [handle, kind]
    exact conclude_eq _ _ Served.givenBack

/-- A command has a call, or is of unknown kind. -/
theorem known_or_unknown (c : Command) : (∃ e : Errand, e.Of c) ∨ c.kind = .unknown := by
  cases kind : c.kind with
  | borrow => exact .inl ⟨.borrow c, rfl, kind⟩
  | giveBack => exact .inl ⟨.giveBack c, rfl, kind⟩
  | unknown => exact .inr rfl

/-- A command of unknown kind is noted and acknowledged. -/
theorem handle_of_unknown {d : Dispatcher} {c : Command} (unknown : c.kind = .unknown) :
    d.handle c = .ask (.note .unknownCommandKind none) fun _ => .done .ack := by
  rw [handle, unknown]
  rfl

section Asks

variable {P : Request → Prop} {d : Dispatcher} (own : ∀ q : Request, q.isOwn = true → P q)
  (sink : ∀ ev, (d.emit ev).Asks P)
include own sink

theorem asks_handle (c : Command) : (d.handle c).Asks P := by
  rcases known_or_unknown c with ⟨e, known⟩ | unknown
  · rw [handle_eq known]
    exact (e.asks own sink).andThen (asks_closing own _)
  · rw [handle_of_unknown unknown]
    exact .ask (own _ rfl) fun _ => .done _

theorem asks_dispatch (notes : ∀ n s s', P (.note n s) → P (.note n s')) (message : Bytes) :
    (d.dispatch message).Asks P := by
  rw [dispatch]
  cases Command.decode? message with
  | none => exact .ask (own _ rfl) fun _ => .done _
  | some c => exact (asks_handle own sink c).within notes _

end Asks

end Dispatcher

/-- What a dispatcher is given: a command, or the message of one. -/
inductive Job where
  | call (c : Command)
  | message (body : Bytes)

/-- Carry out a job. -/
def Dispatcher.carryOut (d : Dispatcher) : Job → Procedure Disposition
  | .call c => d.handle c
  | .message body => d.dispatch body

/-! ## Rounds -/

/-- A message, and the moment at which it is dispatched. -/
structure Round (σ : Type) where
  body : Bytes
  begun : σ

namespace Dispatcher

variable {σ : Type}

/-- The rounds of messages that are dispatched one after another. -/
def rounds (d : Dispatcher) (answer : Surroundings σ) : σ → List Bytes → List (Round σ)
  | _, [] => []
  | s, body :: rest => ⟨body, s⟩ :: d.rounds answer ((d.dispatch body).run answer s).2 rest

/-- Where the surroundings are when all the messages have been dispatched. -/
def afterAll (d : Dispatcher) (answer : Surroundings σ) (s : σ) (messages : List Bytes) : σ :=
  messages.foldl (fun s body => ((d.dispatch body).run answer s).2) s

theorem map_body_rounds (d : Dispatcher) (answer : Surroundings σ) (s : σ) (messages : List Bytes) :
    (d.rounds answer s messages).map Round.body = messages := by
  induction messages generalizing s with
  | nil => rfl
  | cons body rest ih => exact congrArg (body :: ·) (ih _)

end Dispatcher

namespace Round

variable {σ : Type} (d : Dispatcher) (answer : Surroundings σ)

/-- What the dispatch answers. -/
def disposition (r : Round σ) : Disposition := ((d.dispatch r.body).run answer r.begun).1

/-- What the dispatch asks. -/
def asked (r : Round σ) : List Request := (d.dispatch r.body).asked answer r.begun

end Round

end Lending

end Circulation
