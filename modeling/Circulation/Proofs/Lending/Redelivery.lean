/- # Circulation.Proofs.Lending.Redelivery -- a return whose books failed

A call to return settles the loan first and puts the copy back after it. If the books fail in between,
the message is put back into its queue as one that a second try may mend. But the second try finds the
loan settled and has nothing to do: the copy stays missing and the return is never told, however often
the message comes and whatever has happened meanwhile (`unmended_of_redelivery`). While nothing fails,
one delivery does it all (`returns_of_calm`).
-/
import Circulation.Proofs.Lending.Disposition
import Circulation.Proofs.Lending.Replay

namespace Circulation

open Time (Instant)

theorem Failure.transient_of_store {f : Failure} {e : StoreError}
    (store : f = .bookStore e ∨ f = .loanStore e) : f.kind = .transient := by
  rcases store with rfl | rfl <;> rfl

namespace Lending

/-- The section of a call to return, as far as its verdict. -/
def settling (id : LoanId) (user : Option UserId) : Procedure Verdict :=
  (settle id user).run.andThen fun r => .done (.ofSettle r)

/-- The call that carries out a command to return, alone at a desk. -/
def returnAt (c : Command) (d : Desk) : Except Failure Served × Desk :=
  ((Errand.giveBack c).procedure recordingSink).run Desk.answer d

/-- First the section, then the news of its verdict. -/
theorem returnAt_eq {c : Command} {id : LoanId} (named : c.payload.loanId = some id) (d : Desk) :
    returnAt c d = (((settling id c.payload.userId).run Desk.answer d).1.epilogue recordingSink).run
      Desk.answer ((settling id c.payload.userId).run Desk.answer d).2 := by
  rw [returnAt, Errand.procedure_eq]
  simp only [Errand.section?, named]
  exact Procedure.run_andThen Desk.answer (settling id c.payload.userId) _ d

/-! ## A return that fails at a store -/

/-- A call to return fails at a store only after it has settled its loan, and then it has changed
nothing else. -/
theorem settles_of_storeError {c : Command} {d : Desk} {f : Failure} {e : StoreError}
    (store : f = .bookStore e ∨ f = .loanStore e) (failed : (returnAt c d).1 = .error f) :
    ∃ (loan : Loan) (at_ : Instant), c.payload.loanId = some loan.id ∧
      (∀ user, c.payload.userId = some user → user = loan.userId) ∧
      d.ledger.Settles (returnAt c d).2.ledger loan at_ ∧
      (returnAt c d).2.shelf = d.shelf ∧ (returnAt c d).2.events = d.events := by
  let call := Errand.giveBack c
  obtain ⟨clock, timed⟩ := call.call_desk d
  have out : returnAt c d =
      ((call.callAt d.timed).1, { (call.callAt d.timed).2.desk with clock }) := timed
  rw [out] at failed ⊢
  obtain ⟨check, first, rfl, leaves⟩ := call.stops_of_error failed
  have late : check.step.isTransient = true :=
    (call.checks_sorted d.timed check first.mem).mp (Failure.transient_of_store store)
  -- Of the checks of the stores all but one stand behind the settling, and that one is not made here.
  cases step : check.step with
  | loanCreation => exact absurd step (Errand.ne_loanCreation_of_giveBack c d.timed check first.mem)
  | race | bookRead | inventoryWrite =>
    rw [step] at leaves
    obtain ⟨loan, named, there, owner, borrowed, left_⟩ := leaves
    rw [left_]
    exact ⟨loan, _, named, owner, Ledger.settles_of_settle there borrowed rfl, rfl, rfl⟩
  | _ =>
    rw [step] at late
    cases late

/-! ## A return without faults -/

/-- A store that answers lets the attempt go on. -/
theorem run_call {α : Type} {c : StoreCall} {wrap : StoreError → Failure} {d d' : Desk}
    {a : c.Result} (answered : Desk.answerStore c d = (.ok a, d'))
    (k : Except Failure c.Result → Procedure α) :
    ((Attempt.ofAnswer wrap (.request (.store c))).run.andThen k).run Desk.answer d =
      (k (.ok a)).run Desk.answer d' := by
  show (((Procedure.done (Desk.answerStore c d).1).andThen _).andThen k).run Desk.answer
    (Desk.answerStore c d).2 = _
  rw [answered]
  rfl

/-- While the books work, the copy is put back. -/
theorem run_restock_of_calm (book : BookId) {d : Desk} (calm : d.faults = Faults.none) :
    ∃ (remaining : Option Int) (shelf : Shelf), d.shelf.Restocks shelf book remaining ∧
      ∀ {α : Type} (k : Except Failure (Option Int) → Procedure α),
        ((restock book).run.andThen k).run Desk.answer d =
          (k (.ok remaining)).run Desk.answer { d with shelf } := by
  have found : Desk.answerStore (.findBook book) d = (.ok (d.shelf.find? book), d) := by
    simp [Desk.answerStore, calm, Faults.none]
  simp only [restock, Attempt.run_bind_andThen, findBook, run_call found]
  cases there : d.shelf.find? book with
  | none => exact ⟨none, d.shelf, Shelf.restocks_of_missing there rfl, fun k => rfl⟩
  | some b =>
    by_cases full : b.totalCopies ≤ b.availableCopies
    · simp only [Book.restockCopy_of_le full]
      exact ⟨some b.availableCopies, d.shelf, Shelf.restocks_of_full there full rfl, fun k => rfl⟩
    · have room : b.availableCopies < b.totalCopies := by omega
      let put_back := b.withCopies (b.availableCopies + 1)
      have kept : d.shelf.find? put_back.id = some b := by
        rw [Book.withCopies_id, Shelf.id_of_find? there, there]
      have saved : Desk.answerStore (.saveBook put_back) d =
          (.ok true, { d with shelf := d.shelf.put put_back }) := by
        simp [Desk.answerStore, calm, Faults.none, Shelf.save_of_find? kept]
      simp only [Book.restockCopy_of_lt room, Attempt.run_bind_andThen, saveBook]
      refine ⟨some (b.availableCopies + 1), _, Shelf.restocks_of_room there room rfl, fun k => ?_⟩
      exact run_call saved _

/-- While nothing fails, one call settles a borrowed loan for its owner, or for nobody in particular,
puts the copy back and tells it. -/
theorem returns_of_calm {c : Command} {loan : Loan} {d : Desk} (calm : d.faults = Faults.none)
    (named : c.payload.loanId = some loan.id)
    (owner : ∀ user, c.payload.userId = some user → user = loan.userId)
    (there : d.ledger.find? loan.id = some loan) (borrowed : loan.isBorrowed = true) :
    ∃ (at_ now : Instant) (remaining : Option Int),
      (returnAt c d).1 = .ok (.givenBack (.returned (loan.settled at_))) ∧
      d.ledger.Settles (returnAt c d).2.ledger loan at_ ∧
      d.shelf.Restocks (returnAt c d).2.shelf loan.bookId remaining ∧
      (returnAt c d).2.events = d.events ++ [.returned (loan.settled at_) remaining now] := by
  let at_ := d.clock.read.1
  let marked : Desk :=
    { d with clock := d.clock.read.2, ledger := d.ledger.settle loan at_ }
  have found : Desk.answerStore (.findLoan loan.id) d = (.ok (some loan), d) := by
    simp [Desk.answerStore, there]
  have owned : checkOwner loan.id loan c.payload.userId = pure () := by
    cases user : c.payload.userId with
    | none => rfl
    | some user' => exact if_pos (owner user' user)
  have marks : Desk.answerStore (.markReturned loan.id loan.userId at_)
      { d with clock := d.clock.read.2 } = (.ok true, marked) := by
    simp [Desk.answerStore, Ledger.markReturned_of_find? at_ there borrowed, calm, Faults.none, marked]
  obtain ⟨remaining, shelf, restocks, restocked⟩ :=
    run_restock_of_calm loan.bookId (d := marked) calm
  have settles : (settling loan.id c.payload.userId).run Desk.answer d =
      (.returned (loan.settled at_) remaining, { marked with shelf }) := by
    simp only [settling, settle, Attempt.run_bind_andThen, Attempt.run_need_andThen, findLoan,
      run_call found, owned, borrowed, if_true]
    -- Finding the loan is over; the clock is read and the loan is settled.
    show ((markReturned loan.id loan.userId at_).run.andThen _).run Desk.answer
      { d with clock := d.clock.read.2 } = _
    rw [markReturned, run_call marks]
    simp only [if_true, Attempt.run_bind_andThen]
    rw [restocked]
    rfl
  rw [returnAt_eq named, settles]
  exact ⟨at_, _, remaining, rfl, Ledger.settles_of_settle there borrowed rfl, restocks, rfl⟩

/-! ## The same return again -/

/-- To the owner, or to nobody in particular, it is said that the loan was settled before. -/
theorem replayed_of_owner {c : Command} {loan : Loan}
    (owner : ∀ user, c.payload.userId = some user → user = loan.userId) :
    replayed c loan = .ok (.givenBack (.alreadySettled loan)) := by
  cases user : c.payload.userId with
  | none => simp only [replayed, user]
  | some user' => simp only [replayed, user, owner user' user, if_true]

/-- A message to return is answered by the disposition of its call. -/
theorem run_dispatch {policy : RetryPolicy} {message : Bytes} {c : Command}
    (read : Command.decode? message = some c) (kind : c.kind = .giveBack) (d : Desk) :
    (Dispatcher.dispatch ⟨recordingSink, policy⟩ message).run Desk.answer d =
      (concluded policy (returnAt c d).1, (returnAt c d).2) := by
  rw [Dispatcher.dispatch, read]
  dsimp only
  rw [run_within, run_handle (e := .giveBack c) ⟨rfl, kind⟩]
  rfl

/-- A message to return a loan that fails at a store is put back into its queue under every policy,
with the loan settled and nothing else changed. From then on it is acknowledged without any effect, at
every desk that has the settled loan: the copy is not put back and the return is not told. Delivered
once while nothing fails, the same message would have done both. -/
theorem unmended_of_redelivery (policy : RetryPolicy) {message : Bytes} {c : Command}
    (read : Command.decode? message = some c) (kind : c.kind = .giveBack) {d : Desk} {e : StoreError}
    (failed : (returnAt c d).1 = .error (.bookStore e) ∨ (returnAt c d).1 = .error (.loanStore e)) :
    let deliver := (Dispatcher.dispatch ⟨recordingSink, policy⟩ message).run Desk.answer
    let late := deliver d
    let calm := deliver { d with faults := Faults.none }
    ∃ (loan : Loan) (at_ at' now : Instant) (remaining : Option Int),
      c.payload.loanId = some loan.id ∧
      (late.1 = .requeue ∧ d.ledger.Settles late.2.ledger loan at_ ∧
        late.2.shelf = d.shelf ∧ late.2.events = d.events) ∧
      (∀ d' : Desk, d'.ledger.find? loan.id = some (loan.settled at_) → deliver d' = (.ack, d')) ∧
      (calm.1 = .ack ∧ d.ledger.Settles calm.2.ledger loan at' ∧
        d.shelf.Restocks calm.2.shelf loan.bookId remaining ∧
        calm.2.events = d.events ++ [.returned (loan.settled at') remaining now]) := by
  intro deliver late calm
  have delivers : ∀ d, deliver d = (concluded policy (returnAt c d).1, (returnAt c d).2) :=
    run_dispatch read kind
  obtain ⟨f, store, failed⟩ : ∃ f, (f = .bookStore e ∨ f = .loanStore e) ∧
      (returnAt c d).1 = .error f := by
    rcases failed with books | loans
    · exact ⟨_, .inl rfl, books⟩
    · exact ⟨_, .inr rfl, loans⟩
  obtain ⟨loan, at_, named, owner, settles, shelf, events⟩ := settles_of_storeError store failed
  have borrowed : loan.isBorrowed = true := by simp [Loan.isBorrowed, settles.borrowed]
  obtain ⟨at', now, remaining, answered, settles', restocks, told⟩ :=
    returns_of_calm (d := { d with faults := Faults.none }) rfl named owner settles.there borrowed
  have late_eq : late = (.requeue, (returnAt c d).2) := by
    rw [← RetryPolicy.dispositionFor_of_transient (Failure.transient_of_store store) policy]
    exact (delivers d).trans (by rw [failed]; rfl)
  have calm_eq : calm = (.ack, (returnAt c { d with faults := Faults.none }).2) :=
    (delivers _).trans (by rw [answered]; rfl)
  rw [late_eq, calm_eq]
  refine ⟨loan, at_, at', now, remaining, named, ⟨rfl, settles, shelf, events⟩, fun d' there => ?_,
    ⟨rfl, settles', restocks, told⟩⟩
  have names : c.payload.loanId = some (loan.settled at_).id := named
  have again : returnAt c d' = (replayed c (loan.settled at_), d') :=
    (replays_procedure recordingSink names rfl).run there
  have idle : replayed c (loan.settled at_) = .ok (.givenBack (.alreadySettled _)) :=
    replayed_of_owner owner
  rw [delivers, again, idle]
  rfl

/-- A book with one copy of three on the shelf and one of its loans; books cannot be read. -/
def oneOut : Desk where
  shelf := Register.empty.put ⟨⟨1⟩, "Emma", 3, 1⟩
  ledger := Ledger.empty.insert ⟨⟨4⟩, ⟨7⟩, ⟨1⟩, .epoch, .epoch, none, .borrowed⟩
  faults := { Faults.none with failReads := true }
  clock := ⟨0, 0⟩
  events := []

/-- To return that loan. -/
def returnDue : Command := ⟨.giveBack, "r-1", none, ⟨some ⟨7⟩, none, none, some ⟨4⟩⟩⟩

/-- After the books have failed once, no copy is put back and no event sent; without the failure both
would have been done. -/
theorem copy_lost_of_redelivery :
    let deliver := (Dispatcher.dispatch ⟨recordingSink, .redeliverAll⟩ returnDue.encode).run Desk.answer
    let late := deliver oneOut
    let again := deliver { late.2 with faults := Faults.none }
    let calm := deliver { oneOut with faults := Faults.none }
    let copies := fun d : Desk => (d.shelf.find? ⟨1⟩).map (·.availableCopies)
    (late.1 = .requeue ∧ again.1 = .ack ∧ calm.1 = .ack) ∧
      (copies again.2 = some 1 ∧ copies calm.2 = some 2) ∧
      again.2.events = [] ∧ calm.2.events.length = 1 := by
  decide +kernel

/-- There the message is put back at first, and then has no effect at any desk with the loan. -/
theorem unmended_of_redelivery_oneOut :
    let deliver := (Dispatcher.dispatch ⟨recordingSink, .redeliverAll⟩ returnDue.encode).run Desk.answer
    (deliver oneOut).1 = .requeue ∧ ∃ loan at_, loan.id = ⟨4⟩ ∧
      oneOut.ledger.Settles (deliver oneOut).2.ledger loan at_ ∧
      ∀ d : Desk, d.ledger.find? ⟨4⟩ = some (loan.settled at_) → deliver d = (.ack, d) := by
  intro deliver
  have read : Command.decode? returnDue.encode = some returnDue := by decide +kernel
  obtain ⟨loan, at_, -, -, -, named, ⟨requeued, settles, -⟩, idle, -⟩ :=
    unmended_of_redelivery .redeliverAll read rfl (d := oneOut) (e := Desk.booksUnavailable)
      (.inl (by decide +kernel))
  have number : loan.id = ⟨4⟩ := (Option.some.inj named).symm
  exact ⟨requeued, loan, at_, number, settles, number ▸ idle⟩

end Lending

end Circulation
