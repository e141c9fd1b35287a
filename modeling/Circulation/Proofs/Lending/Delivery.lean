/- # Circulation.Proofs.Lending.Delivery -- messages that are delivered again

Both consumers hand their messages to the same desk, and a message can come more than once. A message
that holds a command is carried out as the call of that command, with its notices marked, and answered
by its disposition (`dispatch_eq`); so any deliveries side by side are a run of shifts like calls side
by side (`heralded_deliveries`). No message is remembered. What keeps a command to borrow from being
carried out twice is that its first loan is still borrowed, and no longer (`lent_twice_of_redelivery`):
a second loan is made only after the first was returned (`succession_of_deliveries`).
-/
import Circulation.Lending.Dispatch
import Circulation.Proofs.Lending.Standing

namespace Circulation

open Time (Instant)

/-! ## Procedures with marked notices -/

namespace Procedure

variable {α β : Type}

theorem andThen_within (p : Procedure α) (f : α → Procedure β) (span : Span) :
    (p.andThen f).within span = (p.within span).andThen fun a => (f a).within span := by
  induction p with
  | done a => rfl
  | ask q next ih =>
    have rest : (fun answer => ((next answer).andThen f).within span) =
        fun answer => ((next answer).within span).andThen fun a => (f a).within span := funext ih
    cases q with
    | note n s =>
      cases s with
      | none => exact congrArg (Procedure.ask (.note n (some span))) rest
      | some s => exact congrArg (Procedure.ask (.note n (some s))) rest
    | _ => exact congrArg (Procedure.ask _) rest

/-- Marking notices does not change what else is asked. -/
theorem Asks.within {P : Request → Prop} {p : Procedure α} (h : Asks P p)
    (notes : ∀ n s s', P (.note n s) → P (.note n s')) (span : Span) : Asks P (p.within span) := by
  induction h with
  | done a => exact .done a
  | @ask q next asked _ ih =>
    cases q with
    | note n s =>
      cases s with
      | none => exact .ask (notes n none _ asked) ih
      | some s => exact .ask asked ih
    | _ => exact .ask asked ih

theorem Public.within {p : Procedure α} (h : p.Public) (span : Span) : (p.within span).Public :=
  Asks.within h (fun _ _ _ free => free) span

end Procedure

namespace Lending

/-- Marking its notices, a section keeps to its course. -/
theorem Course.within {may : Faults → Prop} {e : Errand} {deed : Deed} {st : Stores}
    {p : Procedure Verdict} (c : Course may e deed st p) (span : Span) :
    Course may e deed st (p.within span) := by
  induction c with
  | done exit => exact .done exit
  | @ask deed st q next inner advance rest ih =>
    cases q with
    | note n s =>
      cases s with
      | none =>
        -- A notice changes neither the stores nor the deed, whatever it is marked with.
        have same : ∀ d : Desk, deed.after (.note n (some span)) d = deed.after (.note n none) d :=
          fun d => by cases deed <;> rfl
        refine .ask rfl (fun d here ok => ?_) (fun d here ok => ?_)
        · rw [same]
          exact advance d here ok
        · rw [same]
          exact ih d here ok
      | some s => exact .ask inner advance ih
    | _ => exact .ask inner advance ih

/-! ## A message as a call -/

/-- The call is answered by its disposition; a failure is noted. -/
def closing (policy : RetryPolicy) : Except Failure Served → Procedure Disposition
  | .ok _ => .done .ack
  | .error f => .ask (.note (.commandFailed f (policy.dispositionFor f)) none) fun _ =>
      .done (policy.dispositionFor f)

theorem closing_public (policy : RetryPolicy) (r : Except Failure Served) :
    (closing policy r).Public := by
  cases r with
  | ok o => exact .done _
  | error f => exact .ask rfl fun _ => .done _

theorem conclude_eq {α : Type} (dispatcher : Dispatcher) (x : Attempt Failure α) (g : α → Served) :
    dispatcher.conclude x = (x.run.andThen fun r => .done (r.map g)).andThen
      (closing dispatcher.policy) := by
  show x.run.andThen _ = _
  rw [Procedure.andThen_assoc]
  congr
  funext r
  cases r <;> rfl

/-- A message that is delivered, and the policy of its consumer. -/
structure Delivery where
  policy : RetryPolicy
  message : Bytes

namespace Delivery

/-- The command in the message. -/
def command? (y : Delivery) : Option Command := Command.decode? y.message

/-- What the desk does with it. -/
def procedure (emit : EventSink) (y : Delivery) : Procedure Disposition :=
  Dispatcher.dispatch ⟨emit, y.policy⟩ y.message

/-- The call that carries the command out. A message without a known command stands for a call that
lacks everything. -/
def errand (y : Delivery) : Errand :=
  match y.command? with
  | none => .borrow ⟨.unknown, "", none, ⟨none, none, none, none⟩⟩
  | some c =>
    match c.kind with
    | .giveBack => .giveBack c
    | _ => .borrow c

/-- How the notices of the command are marked. -/
def span (y : Delivery) : Span :=
  match y.command? with
  | none => ⟨"", .unknown⟩
  | some c => ⟨c.correlationId, c.kind⟩

theorem errand_eq_borrow {y : Delivery} {c : Command} (read : y.command? = some c)
    (kind : c.kind = .borrow) : y.errand = .borrow c := by
  simp only [errand, read, kind]

theorem errand_eq_giveBack {y : Delivery} {c : Command} (read : y.command? = some c)
    (kind : c.kind = .giveBack) : y.errand = .giveBack c := by
  simp only [errand, read, kind]

/-- The command of a call to return is one to return. -/
theorem of_errand_giveBack {y : Delivery} {c : Command} (h : y.errand = .giveBack c) :
    y.command? = some c ∧ c.kind = .giveBack := by
  unfold errand at h
  split at h
  · cases h
  · rename_i c' read
    split at h
    · rename_i kind
      cases h
      exact ⟨read, kind⟩
    · cases h

/-- A message that is no command to be carried out is dropped with a notice. -/
inductive Drops : Procedure Disposition → Prop
  | bad : Drops (.ask (.note .badCommand none) fun _ => .done .ack)
  | unknown (span : Span) : Drops (.ask (.note .unknownCommandKind (some span)) fun _ => .done .ack)

theorem Drops.isPublic {p : Procedure Disposition} (h : Drops p) : p.Public := by
  cases h <;> exact .ask rfl fun _ => .done _

/-- The message holds a command that is carried out, and stands for its call. -/
inductive Known (y : Delivery) : Prop
  | borrow {c : Command} (read : y.command? = some c) (kind : c.kind = .borrow)
      (call : y.errand = .borrow c) : Known y
  | giveBack {c : Command} (read : y.command? = some c) (kind : c.kind = .giveBack)
      (call : y.errand = .giveBack c) : Known y

/-- A message is dropped, or it holds a known command, and what is done with it is the call of that
command with marked notices. -/
theorem procedure_cases (emit : EventSink) (y : Delivery) :
    Drops (y.procedure emit) ∨ y.Known ∧
      y.procedure emit = ((y.errand.procedure emit).andThen (closing y.policy)).within y.span := by
  unfold procedure Dispatcher.dispatch
  cases read : Command.decode? y.message with
  | none => exact .inl .bad
  | some c =>
    have marked : y.span = ⟨c.correlationId, c.kind⟩ := by simp only [span, command?, read]
    rw [marked]
    cases kind : c.kind with
    | borrow =>
      have call := errand_eq_borrow read kind
      refine .inr ⟨.borrow read kind call, ?_⟩
      simp only [Dispatcher.handle, kind, call]
      exact congrArg (Procedure.within _) (conclude_eq _ _ Served.lent)
    | giveBack =>
      have call := errand_eq_giveBack read kind
      refine .inr ⟨.giveBack read kind call, ?_⟩
      simp only [Dispatcher.handle, kind, call]
      exact congrArg (Procedure.within _) (conclude_eq _ _ Served.givenBack)
    | unknown =>
      left
      simp only [Dispatcher.handle, kind]
      exact .unknown _

/-- What comes after the gate: the news of the call, and the disposition. -/
def sequel (emit : EventSink) (y : Delivery) (v : Verdict) : Procedure Disposition :=
  ((v.epilogue emit).andThen (closing y.policy)).within y.span

/-- What is done with a message never comes to the gate, or it is the section of its call with marked
notices. -/
theorem procedure_eq (emit : EventSink) (y : Delivery) :
    (y.procedure emit).Public ∨
      ∃ p, y.errand.section? = .ok p ∧
        y.procedure emit = .ask .enterGate fun _ =>
          (p.within y.span).andThen fun v => .ask .leaveGate fun _ => y.sequel emit v := by
  rcases y.procedure_cases emit with dropped | ⟨-, called⟩
  · exact .inl dropped.isPublic
  · rw [called, Errand.procedure_eq]
    cases behind : y.errand.section? with
    | error f => exact .inl (Procedure.Public.within (closing_public _ _) _)
    | ok p =>
      refine .inr ⟨p, rfl, ?_⟩
      show Procedure.ask .enterGate _ = _
      simp only [sequel, Errand.behindGate, Procedure.andThen_assoc, Procedure.andThen_within]
      rfl

end Delivery

/-- Messages that are delivered side by side. -/
def deliveryPool (emit : EventSink) (deliveries : List Delivery) (d : Desk) : Pool Desk Disposition :=
  Pool.start d (deliveries.map (·.procedure emit))

theorem heralded_deliveries (emit : EventSink) (may : Faults → Prop) (deliveries : List Delivery) :
    Heralded (fun i v => (deliveries[i]?.map fun y => y.sequel emit v).getD (.done .ack)) may
      (deliveries.map Delivery.errand) (deliveries.map (·.procedure emit)) := by
  intro i rest here st
  obtain ⟨y, named, eq⟩ := Option.map_eq_some_iff.mp ((List.getElem?_map ..).symm.trans here)
  rcases y.procedure_eq emit with free | ⟨p, behind, called⟩
  · rw [eq] at free
    exact absurd free.of_ask.1 Bool.false_ne_true
  · rw [called] at eq
    injection eq with _ same
    refine ⟨y.errand, p.within y.span, ?_, ?_, (section_course may behind none st).within y.span⟩
    · rw [List.getElem?_map, named]
      rfl
    · simp only [named, Option.map_some, Option.getD_some]
      exact (congrFun same ()).symm

theorem deliveryPool_orderly {emit : EventSink} (sink : ∀ ev, (emit ev).Public)
    (deliveries : List Delivery) (d : Desk) : (deliveryPool emit deliveries d).Orderly := by
  refine Pool.Orderly.start d fun r mem => ?_
  obtain ⟨y, -, rfl⟩ := List.mem_map.mp mem
  rcases y.procedure_eq emit with free | ⟨p, behind, called⟩
  · exact .outside free
  · have plain : (p.within y.span).Asks fun q => q.isGate = false :=
      ((section_inner behind).mono fun _ => isGate_of_isSober).within
        (fun _ _ _ plain => plain) _
    rw [called]
    refine .enter (.of_section plain fun v => .leave ?_)
    exact Procedure.Public.within ((v.epilogue_public sink).andThen (closing_public _)) _

/-- However the messages are delivered, the ledger stands to what their calls have done. -/
theorem standing_of_deliveries {emit : EventSink} (sink : ∀ ev, (emit ev).Public)
    (deliveries : List Delivery) {d : Desk} (numbered : d.ledger.Numbered)
    {schedule : List (Pool.Move Desk)} (any : ∀ m ∈ schedule, Permitted (fun _ => True) True m) :
    Standing (deliveries.map Delivery.errand)
      (Deed.inHistory ((deliveryPool emit deliveries d).history Desk.answer schedule))
      ((deliveryPool emit deliveries d).run Desk.answer schedule).world.ledger := by
  have tracked : Tracked _ (fun _ => True) _ [] (deliveryPool emit deliveries d) :=
    .start trivial (heralded_deliveries emit _ deliveries)
  have reached := (tracked.run (fun _ _ => trivial) (deliveryPool_orderly sink deliveries d) any).2
  have begun : Standing (deliveries.map Delivery.errand)
      (Shift.of [] (deliveryPool emit deliveries d)).deeds d.ledger := .start numbered
  exact reached.keep (P := fun s => Standing _ s.deeds s.stores.ledger) Standing.step begun

/-! ## A command that comes again -/

/-- The command that is delivered at a place. -/
def commandAt (deliveries : List Delivery) (i : Nat) : Option Command :=
  deliveries[i]?.bind Delivery.command?

theorem errandAt_of_borrow {deliveries : List Delivery} {i : Nat} {c : Command}
    (delivered : commandAt deliveries i = some c) (kind : c.kind = .borrow) :
    (deliveries.map Delivery.errand)[i]? = some (.borrow c) := by
  obtain ⟨y, named, read⟩ := Option.bind_eq_some_iff.mp delivered
  rw [List.getElem?_map, named, Option.map_some, Delivery.errand_eq_borrow read kind]

theorem commandAt_of_giveBack {deliveries : List Delivery} {i : Nat} {c : Command}
    (call : (deliveries.map Delivery.errand)[i]? = some (.giveBack c)) :
    commandAt deliveries i = some c ∧ c.kind = .giveBack := by
  obtain ⟨y, named, eq⟩ := Option.map_eq_some_iff.mp ((List.getElem?_map ..).symm.trans call)
  obtain ⟨read, kind⟩ := Delivery.of_errand_giveBack eq
  exact ⟨Option.bind_eq_some_iff.mpr ⟨y, named, read⟩, kind⟩

/-- At every moment, however a command to borrow is delivered again among other commands: of two loans
that it has made, the older was returned by a delivered command that names it. So it has made at most
one loan as long as none of its loans was returned. -/
theorem succession_of_deliveries {emit : EventSink} (sink : ∀ ev, (emit ev).Public)
    (deliveries : List Delivery) {d : Desk} (numbered : d.ledger.Numbered)
    {schedule : List (Pool.Move Desk)} (any : ∀ m ∈ schedule, Permitted (fun _ => True) True m)
    {c : Command} (kind : c.kind = .borrow) :
    let p := (deliveryPool emit deliveries d).run Desk.answer schedule
    let deeds := Deed.inHistory ((deliveryPool emit deliveries d).history Desk.answer schedule)
    (∀ (i j : Nat) (a b : Loan), commandAt deliveries i = some c → commandAt deliveries j = some c →
      (deeds i).made? = some a → (deeds j).made? = some b → a.id.value < b.id.value →
        ∃ k c' at_, commandAt deliveries k = some c' ∧ c'.kind = .giveBack ∧
          c'.payload.loanId = some a.id ∧ (deeds k).settled? = some (a.settled at_) ∧
          p.world.ledger.find? a.id = some (a.settled at_)) ∧
    ((∀ (i k : Nat) (a : Loan) (at_ : Instant), commandAt deliveries i = some c →
        (deeds i).made? = some a → (deeds k).settled? ≠ some (a.settled at_)) →
      ∀ i j : Nat, commandAt deliveries i = some c → commandAt deliveries j = some c →
        (deeds i).made?.isSome → (deeds j).made?.isSome → i = j) := by
  intro p deeds
  have standing := standing_of_deliveries sink deliveries numbered any
  -- Both loans are for the user and the book that the command names.
  have alike : ∀ {i j a b}, commandAt deliveries i = some c → commandAt deliveries j = some c →
      (deeds i).made? = some a → (deeds j).made? = some b →
        a.userId = b.userId ∧ a.bookId = b.bookId := by
    intro i j a b first second made_a made_b
    obtain ⟨-, c₁, call₁, user₁, book₁⟩ := standing.maker i a made_a
    obtain ⟨-, c₂, call₂, user₂, book₂⟩ := standing.maker j b made_b
    cases Option.some.inj ((errandAt_of_borrow first kind).symm.trans call₁)
    cases Option.some.inj ((errandAt_of_borrow second kind).symm.trans call₂)
    exact ⟨Option.some.inj (user₁.symm.trans user₂), Option.some.inj (book₁.symm.trans book₂)⟩
  refine ⟨fun i j a b first second made_a made_b older => ?_,
    fun unreturned i j first second made_i made_j => ?_⟩
  · obtain ⟨user, book⟩ := alike first second made_a made_b
    obtain ⟨k, at_, settled⟩ := standing.succession i j a b made_a made_b user book older
    obtain ⟨there, -, c', call, names⟩ := standing.settler k _ settled
    obtain ⟨delivered, returns⟩ := commandAt_of_giveBack call
    exact ⟨k, c', at_, delivered, returns, names, settled, there⟩
  · obtain ⟨a, made_a⟩ := Option.isSome_iff_exists.mp made_i
    obtain ⟨b, made_b⟩ := Option.isSome_iff_exists.mp made_j
    obtain ⟨user, book⟩ := alike first second made_a made_b
    -- Loans of two deliveries have two numbers, and the one with the lower was not returned.
    rcases Int.lt_trichotomy a.id.value b.id.value with older | same | younger
    · obtain ⟨k, at_, settled⟩ := standing.succession i j a b made_a made_b user book older
      exact absurd settled (unreturned i k a at_ first made_a)
    · exact standing.oneMaker i j a b made_a made_b (congrArg LoanId.mk same)
    · obtain ⟨k, at_, settled⟩ :=
        standing.succession j i b a made_b made_a user.symm book.symm younger
      exact absurd settled (unreturned j k b at_ second made_b)

/-- A message to borrow the copy. -/
def borrowMessage : Delivery :=
  ⟨.redeliverAll, Command.encode ⟨.borrow, "b-1", none, ⟨some ⟨7⟩, some ⟨1⟩, none, none⟩⟩⟩

/-- A message to return the first loan. -/
def returnMessage : Delivery :=
  ⟨.redeliverAll, Command.encode ⟨.giveBack, "r-1", none, ⟨some ⟨7⟩, none, none, some ⟨1⟩⟩⟩⟩

/-- The message to borrow comes once more after its loan was returned. -/
def lateAgain : List Delivery := [borrowMessage, returnMessage, borrowMessage]

/-- One message after the other. -/
def oneByOne : List Nat := List.replicate 12 0 ++ List.replicate 12 1 ++ List.replicate 12 2

/-- One command, delivered twice without faults, makes two loans. -/
theorem lent_twice_of_redelivery :
    let p := (deliveryPool recordingSink lateAgain oneCopy).run Desk.answer (oneByOne.map .step)
    let deeds := Deed.inHistory
      ((deliveryPool recordingSink lateAgain oneCopy).history Desk.answer (oneByOne.map .step))
    oneCopy.faults = Faults.none ∧ lateAgain[0]? = lateAgain[2]? ∧
      p.results = [some .ack, some .ack, some .ack] ∧
      (deeds 0).made?.map (·.id) = some ⟨1⟩ ∧ (deeds 2).made?.map (·.id) = some ⟨2⟩ ∧
      p.world.ledger.loans.toList.map (fun loan => (loan.id, loan.status)) =
        [(⟨1⟩, .returned), (⟨2⟩, .borrowed)] := by
  refine ⟨rfl, rfl, ?_⟩
  decide +kernel

/-- There the first loan was returned before the second was made. -/
theorem succession_of_deliveries_lateAgain :
    let p := (deliveryPool recordingSink lateAgain oneCopy).run Desk.answer (oneByOne.map .step)
    let deeds := Deed.inHistory
      ((deliveryPool recordingSink lateAgain oneCopy).history Desk.answer (oneByOne.map .step))
    ∃ a b k at_, (deeds 0).made? = some a ∧ (deeds 2).made? = some b ∧
      (deeds k).settled? = some (a.settled at_) ∧
      p.world.ledger.find? a.id = some (a.settled at_) := by
  have evaluated : ((Deed.inHistory ((deliveryPool recordingSink lateAgain oneCopy).history Desk.answer
        (oneByOne.map .step)) 0).made?.map (·.id.value)) = some 1 ∧
      ((Deed.inHistory ((deliveryPool recordingSink lateAgain oneCopy).history Desk.answer
        (oneByOne.map .step)) 2).made?.map (·.id.value)) = some 2 := by decide +kernel
  obtain ⟨a, made_a, number_a⟩ := Option.map_eq_some_iff.mp evaluated.1
  obtain ⟨b, made_b, number_b⟩ := Option.map_eq_some_iff.mp evaluated.2
  obtain ⟨k, -, at_, -, -, -, settled, there⟩ := (succession_of_deliveries recordingSink_public
    lateAgain (d := oneCopy) Ledger.numbered_empty (permitted_steps _ _ oneByOne)
    (c := ⟨.borrow, "b-1", none, ⟨some ⟨7⟩, some ⟨1⟩, none, none⟩⟩) rfl).1 0 2 a b
      (by decide +kernel) (by decide +kernel) made_a made_b (by omega)
  exact ⟨a, b, k, at_, made_a, made_b, settled, there⟩

end Lending

end Circulation
