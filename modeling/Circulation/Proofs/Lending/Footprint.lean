/- # Circulation.Proofs.Lending.Footprint -- what one message can change

Messages are delivered side by side, and anything may fail. What the command of one of them changes, in
all its steps together, is its footprint: a command to borrow enters at most one loan, for the user and
of the book that it names, and changes the copies of no other book; a command to return settles at most
the loan that it names and changes the copies of no book but that loan's, and it does so only if it names
no user or the loan's own. Everything else that is delivered changes nothing: what is no command, what is
of another kind, and what lacks a number that it needs, be it missing, null or 0 in the message.
-/
import Circulation.Proofs.Lending.Advances
import Circulation.Proofs.Lending.Delivery
import Circulation.Proofs.Lending.Disposition
import Circulation.Proofs.Pool.Passage
import Circulation.Proofs.Wire.Spelling

namespace Circulation

/-- The command has all the numbers that it needs to be carried out. -/
def Command.Complete (c : Command) : Prop :=
  match c.kind with
  | .borrow => c.payload.userId.isSome ∧ c.payload.bookId.isSome
  | .giveBack => c.payload.loanId.isSome
  | .unknown => False

namespace Lending

/-! ## Steps -/

/-- What a step can do that is to lend a book: nothing, or enter this loan, or change the copies of its
book. -/
inductive Lends (loan : Loan) (st st' : Stores) : Prop
  | nothing (same : st' = st)
  | enters (new : st.ledger.Gains st'.ledger loan) (books : st'.shelf = st.shelf)
  | takes {found : Book} {copies : Int} (own : found.id = loan.bookId)
      (book : st.shelf.Differs st'.shelf found copies) (loans : st'.ledger = st.ledger)

/-- What a step can do that is to take a book back: nothing, or settle a loan as this one, or change the
copies of its book when it is settled. -/
inductive TakesBack (back : Loan) (st st' : Stores) : Prop
  | nothing (same : st' = st)
  | settles {loan : Loan} {at_ : Time.Instant} (own : back = loan.settled at_)
      (settled : st.ledger.Settles st'.ledger loan at_) (books : st'.shelf = st.shelf)
  | restocks {found : Book} {copies : Int} (own : found.id = back.bookId)
      (there : st.ledger.find? back.id = some back)
      (book : st.shelf.Differs st'.shelf found copies) (loans : st'.ledger = st.ledger)

theorem Advance.lends {c : Command} {deed deed' : Deed} {st st' : Stores}
    (a : Advance (.borrow c) deed st deed' st') (numbered : st.ledger.Numbered)
    (unsettled : deed.settled? = none) :
    st' = st ∨ ∃ loan, deed'.made? = some loan ∧ Lends loan st st' := by
  cases a with
  | stay | read => exact .inl rfl
  | lend => exact .inr ⟨_, rfl, .enters (Ledger.gains_of_create numbered rfl) rfl⟩
  | take there =>
    exact .inr ⟨_, rfl, .takes (Shelf.id_of_find? there) (Shelf.differs_of_put there rfl) rfl⟩
  | settle call => cases call
  | restock => cases unsettled

theorem Advance.takesBack {c : Command} {deed deed' : Deed} {st st' : Stores}
    (a : Advance (.giveBack c) deed st deed' st') (unmade : deed.made? = none)
    (settled : ∀ back, deed.settled? = some back → st.ledger.find? back.id = some back) :
    st' = st ∨ ∃ back, deed'.settled? = some back ∧ TakesBack back st st' := by
  cases a with
  | stay | read => exact .inl rfl
  | lend call => cases call
  | take => cases unmade
  | settle call named there owner borrowed =>
    have own := (Ledger.find?_eq_some_iff.mp there).2
    exact .inr ⟨_, rfl, .settles rfl (Ledger.settles_of_settle (own ▸ there) borrowed rfl) rfl⟩
  | restock there room =>
    exact .inr ⟨_, rfl, .restocks (Shelf.id_of_find? there) (settled _ rfl)
      (Shelf.differs_of_put there rfl) rfl⟩

/-! ## Only for the owner -/

/-- Whoever has settled a loan named no user, or the loan's own. -/
def Owned (errands : List Errand) (deeds : Nat → Deed) : Prop :=
  ∀ (i : Nat) (c : Command) (back : Loan), errands[i]? = some (.giveBack c) →
    (deeds i).settled? = some back → ∀ user, c.payload.userId = some user → user = back.userId

theorem Owned.update_same {errands : List Errand} {deeds : Nat → Deed} (o : Owned errands deeds)
    {i : Nat} {deed : Deed} (same : deed.settled? = (deeds i).settled?) :
    Owned errands (Function.update deeds i deed) := by
  intro j c back call settled
  rw [Deed.update_same same] at settled
  exact o j c back call settled

theorem Owned.step {may : Faults → Prop} {drops : Prop} {errands : List Errand} {s s' : Shift}
    (h : Shift.Step may drops errands s s') (before : Owned errands s.deeds) :
    Owned errands s'.deeds := by
  cases h with
  | @advance i e deed st mine named advance =>
    show Owned errands (Function.update s.deeds i deed)
    generalize deed_eq : s.deeds i = old at advance
    cases advance with
    | stay => exact before.update_same (by rw [deed_eq])
    | settle call loan there owner =>
      subst call
      intro j c back other settled
      rcases Deed.of_update settled with ⟨rfl, own⟩ | ⟨-, settled⟩
      · cases Option.some.inj (named.symm.trans other)
        cases own
        exact owner
      · exact before j c back other settled
    | _ => exact before.update_same (by rw [deed_eq]; rfl)
  | @glance i r now idle => exact before.update_same (by rw [idle]; rfl)
  | _ => exact before

/-! ## Footprints -/

/-- What is true of the stores before and after each step of the task at a place. -/
def AtEachStep (start : Pool Desk Disposition) (schedule : List (Pool.Move Desk)) (i : Nat)
    (R : Stores → Stores → Prop) : Prop :=
  ∀ earlier later, schedule = earlier ++ .step i :: later →
    R (start.run Desk.answer earlier).world.stores
      (start.run Desk.answer (earlier ++ [.step i])).world.stores

/-- What the message at a place changes in a run, in all its steps. -/
inductive Footprint (start : Pool Desk Disposition) (schedule : List (Pool.Move Desk)) (i : Nat)
    (y : Delivery) : Prop
  | nothing (untouched : AtEachStep start schedule i fun st st' => st' = st)
  | borrow {c : Command} {loan : Loan} (read : y.command? = some c) (kind : c.kind = .borrow)
      (user : c.payload.userId = some loan.userId) (book : c.payload.bookId = some loan.bookId)
      (steps : AtEachStep start schedule i (Lends loan))
  | giveBack {c : Command} {back : Loan} (read : y.command? = some c) (kind : c.kind = .giveBack)
      (named : c.payload.loanId = some back.id)
      (owner : ∀ user, c.payload.userId = some user → user = back.userId)
      (steps : AtEachStep start schedule i (TakesBack back))

/-- Who never needs the gate changes nothing. -/
theorem untouched_of_public {start : Pool Desk Disposition} {i : Nat}
    (free : ∀ rest, start.left? i = some rest → rest.Public) (schedule : List (Pool.Move Desk)) :
    AtEachStep start schedule i fun st st' => st' = st := by
  intro earlier later _
  rw [Pool.run_append]
  rcases Pool.world_of_move Desk.answer (start.run Desk.answer earlier) (.step i) with
    same | ⟨f, other, -⟩ | ⟨j, q, step, ⟨next, here⟩, changed⟩
  · exact congrArg Desk.stores same
  · cases other
  · cases step
    have asks : (Procedure.ask q next).Public :=
      Pool.left?_run (fun free => free.of_ask.2) free earlier (Pool.left?_of_ready here)
    exact (congrArg Desk.stores changed).trans (Desk.stores_answer asks.of_ask.1 _)

section Runs

variable {emit : EventSink} {deliveries : List Delivery} {d : Desk}
  {schedule : List (Pool.Move Desk)}

/-- At every moment of a run the calls of the messages are on their course, and have stood by their
users. -/
theorem tracked_of_deliveries (sink : ∀ ev, (emit ev).Public) (deliveries : List Delivery) (d : Desk)
    {schedule : List (Pool.Move Desk)} (any : ∀ m ∈ schedule, Permitted (fun _ => True) True m) :
    let h := (deliveryPool emit deliveries d).history Desk.answer schedule
    let p := (deliveryPool emit deliveries d).run Desk.answer schedule
    (∃ sequel, Tracked sequel (fun _ => True) (deliveries.map Delivery.errand) h p) ∧ p.Orderly ∧
      Owned (deliveries.map Delivery.errand) (Deed.inHistory h) := by
  intro h p
  have orderly := deliveryPool_orderly sink deliveries d
  have begun : Tracked _ (fun _ => True) _ [] (deliveryPool emit deliveries d) :=
    .start trivial (heralded_deliveries emit _ deliveries)
  obtain ⟨tracked, reached⟩ := begun.run (fun _ _ => trivial) orderly any
  refine ⟨⟨_, tracked⟩, orderly.run schedule, ?_⟩
  have fresh : Owned (deliveries.map Delivery.errand)
      (Shift.of [] (deliveryPool emit deliveries d)).deeds := by
    intro i c back _ settled
    cases settled
  exact reached.keep (P := fun s => Owned _ s.deeds) Owned.step fresh

/-- A step of a message leaves the stores alone, or is an advance of its call. -/
theorem advance_of_delivery (sink : ∀ ev, (emit ev).Public)
    (any : ∀ m ∈ schedule, Permitted (fun _ => True) True m) {i : Nat} {y : Delivery}
    (delivered : deliveries[i]? = some y) :
    let start := deliveryPool emit deliveries d
    let now := (start.run Desk.answer schedule).world.stores
    let next := (start.run Desk.answer (schedule ++ [.step i])).world.stores
    next = now ∨
      Advance y.errand (Deed.inHistory (start.history Desk.answer schedule) i) now
        (Deed.inHistory (start.history Desk.answer (schedule ++ [.step i])) i) next := by
  intro start now next
  obtain ⟨⟨sequel, tracked⟩, orderly, -⟩ := tracked_of_deliveries sink deliveries d any
  have ok : Permitted (fun _ => True) True (.step i) := trivial
  rcases tracked.stores_of_move orderly ok with same | ⟨j, e, step, named, advance⟩
  · left
    show (start.run Desk.answer (schedule ++ [.step i])).world.stores = _
    rw [Pool.run_append]
    exact same
  · cases step
    rw [List.getElem?_map, delivered, Option.map_some] at named
    cases Option.some.inj named
    right
    simp only [next, Pool.run_append, Pool.history_append]
    rw [← List.append_nil (Pool.happenings _ _)] at advance
    exact advance

/-- What each advance of a call does with a loan that its deed tells, the call does with the loan that
its deed tells in the end. -/
theorem atEachStep_of_advance (sink : ∀ ev, (emit ev).Public)
    (any : ∀ m ∈ schedule, Permitted (fun _ => True) True m) {i : Nat} {y : Delivery}
    (delivered : deliveries[i]? = some y) {loan? : Deed → Option Loan}
    {R : Loan → Stores → Stores → Prop}
    (lasts : ∀ {h : List (Happening Desk)} {loan : Loan}, loan? (Deed.inHistory h i) = some loan →
      ∀ x, loan? (Deed.inHistory (h ++ x) i) = some loan)
    (advances : ∀ earlier, (∀ m ∈ earlier, Permitted (fun _ => True) True m) →
      ∀ {deed : Deed} {st : Stores},
        Advance y.errand (Deed.inHistory ((deliveryPool emit deliveries d).history Desk.answer earlier) i)
          ((deliveryPool emit deliveries d).run Desk.answer earlier).world.stores deed st →
        st = ((deliveryPool emit deliveries d).run Desk.answer earlier).world.stores ∨
          ∃ loan, loan? deed = some loan ∧
            R loan ((deliveryPool emit deliveries d).run Desk.answer earlier).world.stores st) :
    AtEachStep (deliveryPool emit deliveries d) schedule i fun st st' =>
      st' = st ∨ ∃ loan, loan? (Deed.inHistory
        ((deliveryPool emit deliveries d).history Desk.answer schedule) i) = some loan ∧
          R loan st st' := by
  rintro earlier later rfl
  have before : ∀ m ∈ earlier, Permitted (fun _ => True) True m := fun m mem =>
    any m (List.mem_append_left _ mem)
  rcases advance_of_delivery sink before delivered with same | advance
  · exact .inl same
  · refine (advances earlier before advance).imp_right fun ⟨loan, told, does⟩ => ?_
    have kept := lasts told (((deliveryPool emit deliveries d).run Desk.answer
      (earlier ++ [.step i])).history Desk.answer later)
    rw [← Pool.history_append, List.append_assoc] at kept
    exact ⟨loan, kept, does⟩

/-- What a call to borrow does in a step, it does with the loan that it has made in the end. -/
theorem lends_of_delivery (sink : ∀ ev, (emit ev).Public) (numbered : d.ledger.Numbered)
    (any : ∀ m ∈ schedule, Permitted (fun _ => True) True m) {i : Nat} {y : Delivery} {c : Command}
    (delivered : deliveries[i]? = some y) (call : y.errand = .borrow c) :
    AtEachStep (deliveryPool emit deliveries d) schedule i fun st st' =>
      st' = st ∨ ∃ loan, (Deed.inHistory
        ((deliveryPool emit deliveries d).history Desk.answer schedule) i).made? = some loan ∧
          Lends loan st st' := by
  refine atEachStep_of_advance sink any delivered Deed.made?_inHistory
    fun earlier before deed st advance => ?_
  have standing := standing_of_deliveries sink deliveries numbered before
  have unsettled : (Deed.inHistory
      ((deliveryPool emit deliveries d).history Desk.answer earlier) i).settled? = none := by
    refine Option.eq_none_iff_forall_ne_some.mpr fun back settled => ?_
    obtain ⟨-, -, c', other, -⟩ := standing.settler i back settled
    rw [List.getElem?_map, delivered, Option.map_some, call] at other
    cases other
  rw [call] at advance
  exact advance.lends standing.numbered unsettled

/-- What a call to return does in a step, it does with the loan that it has settled in the end. -/
theorem takesBack_of_delivery (sink : ∀ ev, (emit ev).Public) (numbered : d.ledger.Numbered)
    (any : ∀ m ∈ schedule, Permitted (fun _ => True) True m) {i : Nat} {y : Delivery} {c : Command}
    (delivered : deliveries[i]? = some y) (call : y.errand = .giveBack c) :
    AtEachStep (deliveryPool emit deliveries d) schedule i fun st st' =>
      st' = st ∨ ∃ back, (Deed.inHistory
        ((deliveryPool emit deliveries d).history Desk.answer schedule) i).settled? = some back ∧
          TakesBack back st st' := by
  refine atEachStep_of_advance sink any delivered Deed.settled?_inHistory
    fun earlier before deed st advance => ?_
  have standing := standing_of_deliveries sink deliveries numbered before
  have unmade : (Deed.inHistory
      ((deliveryPool emit deliveries d).history Desk.answer earlier) i).made? = none := by
    refine Option.eq_none_iff_forall_ne_some.mpr fun loan made => ?_
    obtain ⟨-, c', other, -⟩ := standing.maker i loan made
    rw [List.getElem?_map, delivered, Option.map_some, call] at other
    cases other
  rw [call] at advance
  exact advance.takesBack unmade fun back settled => (standing.settler i back settled).1

/-- Whoever does in each step nothing, or something with the loan that its deed tells, does nothing if
its deed tells none, and otherwise does it with that loan. -/
theorem AtEachStep.of_loan? {start : Pool Desk Disposition} {i : Nat} {told : Option Loan}
    {R : Loan → Stores → Stores → Prop} (idle : ∀ loan st, R loan st st)
    (steps : AtEachStep start schedule i fun st st' =>
      st' = st ∨ ∃ loan, told = some loan ∧ R loan st st') :
    (told = none ∧ AtEachStep start schedule i fun st st' => st' = st) ∨
      ∃ loan, told = some loan ∧ AtEachStep start schedule i (R loan) := by
  cases told with
  | none =>
    refine .inl ⟨rfl, fun earlier later parts => ?_⟩
    rcases steps earlier later parts with same | ⟨loan, other, -⟩
    · exact same
    · cases other
  | some loan =>
    refine .inr ⟨loan, rfl, fun earlier later parts => ?_⟩
    rcases steps earlier later parts with same | ⟨loan', other, does⟩
    · rw [same]
      exact idle loan _
    · cases other
      exact does

/-- Every message that is delivered has its footprint. -/
theorem footprint_of_delivery (sink : ∀ ev, (emit ev).Public) (numbered : d.ledger.Numbered)
    (any : ∀ m ∈ schedule, Permitted (fun _ => True) True m) {i : Nat} {y : Delivery}
    (delivered : deliveries[i]? = some y) :
    Footprint (deliveryPool emit deliveries d) schedule i y := by
  have standing := standing_of_deliveries sink deliveries numbered any
  rcases y.procedure_cases emit with dropped | ⟨known, -⟩
  · refine .nothing (untouched_of_public (fun rest here => ?_) schedule)
    obtain ⟨task, there, left_⟩ := Option.bind_eq_some_iff.mp here
    obtain ⟨r, named, rfl⟩ := Pool.ready_of_start there
    rw [List.getElem?_map, delivered, Option.map_some] at named
    cases named
    cases left_
    exact dropped.isPublic
  · cases known with
    | @borrow c read kind call =>
      have steps := lends_of_delivery sink numbered any delivered call
      rcases steps.of_loan? fun _ _ => .nothing rfl with ⟨-, untouched⟩ | ⟨loan, made, steps⟩
      · exact .nothing untouched
      · obtain ⟨-, c', other, user, book⟩ := standing.maker i loan made
        rw [List.getElem?_map, delivered, Option.map_some, call] at other
        cases other
        exact .borrow read kind user book steps
    | @giveBack c read kind call =>
      have steps := takesBack_of_delivery sink numbered any delivered call
      rcases steps.of_loan? fun _ _ => .nothing rfl with ⟨-, untouched⟩ | ⟨back, settled, steps⟩
      · exact .nothing untouched
      · obtain ⟨-, -, c', other, named⟩ := standing.settler i back settled
        have owner := (tracked_of_deliveries sink deliveries d any).2.2 i c' back other settled
        rw [List.getElem?_map, delivered, Option.map_some, call] at other
        cases other
        exact .giveBack read kind named owner steps

/-- However messages are delivered and whatever fails: the stores change only in steps of delivered
messages, each message has its footprint, and a message that spells a command without a number that it
needs, or of another kind, changes nothing. -/
theorem footprint_of_deliveries (sink : ∀ ev, (emit ev).Public) (deliveries : List Delivery) {d : Desk}
    (numbered : d.ledger.Numbered) {schedule : List (Pool.Move Desk)}
    (any : ∀ m ∈ schedule, Permitted (fun _ => True) True m) :
    let start := deliveryPool emit deliveries d
    (∀ earlier m later, schedule = earlier ++ m :: later →
      (start.run Desk.answer (earlier ++ [m])).world.stores =
          (start.run Desk.answer earlier).world.stores ∨
        ∃ i y, m = .step i ∧ deliveries[i]? = some y) ∧
    (∀ (i : Nat) (y : Delivery), deliveries[i]? = some y → Footprint start schedule i y) ∧
    ∀ (i : Nat) (y : Delivery) (c : Command), deliveries[i]? = some y → c.Fits →
      Wire.TextOf c.Spells y.message → ¬c.Complete →
        AtEachStep start schedule i fun st st' => st' = st := by
  intro start
  have footprint : ∀ (i : Nat) (y : Delivery), deliveries[i]? = some y →
      Footprint start schedule i y :=
    fun i y delivered => footprint_of_delivery sink numbered any delivered
  refine ⟨?_, footprint, fun i y c delivered fits text lacking => ?_⟩
  · rintro earlier m later rfl
    have before : ∀ m ∈ earlier, Permitted (fun _ => True) True m := fun m mem =>
      any m (List.mem_append_left _ mem)
    obtain ⟨⟨sequel, tracked⟩, orderly, -⟩ := tracked_of_deliveries sink deliveries d before
    have ok := any m (List.mem_append_right _ List.mem_cons_self)
    rw [Pool.run_append]
    refine (tracked.stores_of_move orderly ok).imp_right fun ⟨i, e, step, named, _⟩ => ?_
    obtain ⟨y, delivered, -⟩ := Option.map_eq_some_iff.mp ((List.getElem?_map ..).symm.trans named)
    exact ⟨i, y, step, delivered⟩
  · have reads : y.command? = some c := Command.decode?_of_textOf fits text
    -- Whatever leaves a footprint has all that it needs.
    cases footprint i y delivered with
    | nothing untouched => exact untouched
    | borrow read kind user book =>
      cases reads.symm.trans read
      exact absurd (by simp [Command.Complete, kind, user, book]) lacking
    | giveBack read kind named =>
      cases reads.symm.trans read
      exact absurd (by simp [Command.Complete, kind, named]) lacking

end Runs

/-- To return something, but no loan. -/
def loanless : Command := ⟨.giveBack, "", none, ⟨some ⟨7⟩, none, none, none⟩⟩

/-- In its payload the number of the loan is 0. -/
def zeroPayload : Json :=
  .object [Json.entry "user_id" (Json.ofInt 7), Json.entry "loan_id" (Json.ofInt 0)]

def zeroTree : Json :=
  .object [Json.entry "type" (Json.ofText "return"), Json.entry "payload" zeroPayload]

theorem text_zeroPayload : Json.Text (.tree zeroPayload) zeroPayload.render := by
  apply Json.text_render_object
  simp only [List.forall_mem_cons, List.not_mem_nil, false_imp_iff, implies_true, and_true]
  exact ⟨Json.writable_entry _ (Json.text_render_ofInt 7),
    Json.writable_entry _ (Json.text_render_ofInt 0)⟩

theorem zeroTree_text : Wire.TextOf loanless.Spells zeroTree.render := by
  have inner := (((Json.Gives.nil.entry "loan_id" (Json.ofInt 0)).skip "days").skip "book_id").entry
    "user_id" (Json.ofInt 7)
  have outer := (((Json.Gives.nil.entry "payload" zeroPayload).skip "requested_at").skip
    "correlation_id").entry "type" (Json.ofText "return")
  have payload : loanless.payload.Spells zeroPayload :=
    .mk (.there (by decide)) .missing .missing .zero inner.fills
  refine ⟨zeroTree, .mk (Json.spellsChoice_ofText "return") rfl .missing .missing payload outer.fills,
    Json.text_render_object ?_⟩
  simp only [List.forall_mem_cons, List.not_mem_nil, false_imp_iff, implies_true, and_true]
  exact ⟨Json.writable_entry _ (Json.text_render_ofText _), Json.writable_entry _ text_zeroPayload⟩

/-- The copy is borrowed, then returned without the number of its loan. -/
def zeroReturned : List Delivery := [borrowMessage, ⟨.redeliverAll, zeroTree.render⟩]

/-- The return with the number 0 changes nothing, and the borrow before it has its footprint. -/
theorem footprint_of_deliveries_oneCopy :
    let start := deliveryPool recordingSink zeroReturned oneCopy
    let order := (List.replicate 12 0 ++ List.replicate 12 1).map Pool.Move.step
    (start.run Desk.answer order).results = [some .ack, some .requeue] ∧
      (start.run Desk.answer order).world.ledger.loans.toList.map (·.status) = [.borrowed] ∧
      Footprint start order 0 borrowMessage ∧ AtEachStep start order 1 fun st st' => st' = st := by
  obtain ⟨-, footprint, lacking⟩ := footprint_of_deliveries recordingSink_public zeroReturned
    (d := oneCopy) Ledger.numbered_empty
    (permitted_steps _ _ (List.replicate 12 0 ++ List.replicate 12 1))
  have fits : loanless.Fits := by
    constructor <;> rintro n ⟨⟩
    decide
  refine ⟨by decide +kernel, by decide +kernel, footprint 0 _ rfl, ?_⟩
  exact lacking 1 ⟨.redeliverAll, zeroTree.render⟩ loanless rfl fits zeroTree_text
    (by simp [Command.Complete, loanless])

end Lending

end Circulation
