/- # Circulation.Proofs.Lending.LifeCycle -- what can happen to a loan

A move of a run leaves the ledger as it is, or it is a step of a call to borrow that opens one loan, or
a step of a call to return that settles one (`LedgerMove`). That is so however the call goes on: a
borrow that fails on writing the stock has opened its loan before, and a return that fails after the
settling, or is told that it was lost, has settled the loan all the same. A loan is opened borrowed,
due after the day it is lent on, and under a number above all numbers in use. Between any two moments
of a run a loan stays exactly as it is, or it was borrowed and is returned with the reading of the clock
of one call to return (`lifeCycle_of_run`). So what is returned or late never changes.
-/
import Circulation.Proofs.Lending.Advances
import Circulation.Proofs.Lending.Disposition
import Circulation.Proofs.Pool.Passage
import Circulation.Proofs.Time.Period

namespace Circulation

open Time (Instant)

/-! ## Dates -/

namespace Time.Instant

/-- The instant comes before the other. -/
def Before (t u : Instant) : Prop :=
  t.seconds < u.seconds ∨ (t.seconds = u.seconds ∧ t.nanos < u.nanos)

/-- A positive number of days later is later. -/
theorem before_addDays? {t u : Instant} {days : Int} (positive : 0 < days)
    (h : t.addDays? days = some u) : t.Before u := by
  obtain ⟨seconds, period, there⟩ := Option.bind_eq_some_iff.mp h
  have length := eq_of_secondsOfDays? period
  have later := (eq_of_ofUnix? there).1
  left
  omega

end Time.Instant

/-- A loan is due after it began. -/
theorem LoanDraft.before_of_open? {user : UserId} {book : BookId} {days : Option Int} {now : Instant}
    {draft : LoanDraft} (h : open? user book days now = .ok draft) :
    draft.loanDate.Before draft.dueDate := by
  simp only [open?] at h
  split at h
  · rename_i due dated
    cases h
    exact Time.Instant.before_addDays? (resolveLoanDays_pos days) dated
  · cases h

/-! ## Moves of the ledger -/

/-- One loan more: borrowed and not returned, due after it began, under a number above all numbers in
use. -/
structure Ledger.Opens (l l' : Ledger) (loan : Loan) : Prop extends l.Gains l' loan where
  unreturned : loan.returnDate = none
  dueLater : loan.loanDate.Before loan.dueDate
  above : ∀ id other, l.find? id = some other → id.value < loan.id.value

theorem Ledger.opens_of_create {l : Ledger} (numbered : l.Numbered) {draft : LoanDraft}
    (later : draft.loanDate.Before draft.dueDate) : l.Opens (l.create draft).2 (l.create draft).1 where
  toGains := gains_of_create numbered rfl
  unreturned := rfl
  dueLater := later
  above := by
    intro id other there
    rw [← (find?_eq_some_iff.mp there).2]
    exact numbered.lt_of_find? there

namespace Lending

/-- What a move can do to the ledger, after a history: nothing, or open a loan that a call to borrow asks
for, or settle the loan that a call to return names, with what that call saw of the clock. -/
inductive LedgerMove (errands : List Errand) (h : List (Happening Desk)) (m : Pool.Move Desk)
    (l l' : Ledger) : Prop
  | stays (same : l' = l)
  | opens {i : Nat} {c : Command} {loan : Loan} (step : m = .step i)
      (call : errands[i]? = some (.borrow c)) (user : c.payload.userId = some loan.userId)
      (book : c.payload.bookId = some loan.bookId) (opened : l.Opens l' loan)
  | settles {i : Nat} {c : Command} {loan : Loan} {now : Instant} (step : m = .step i)
      (call : errands[i]? = some (.giveBack c)) (named : c.payload.loanId = some loan.id)
      (seen : Dated h i now) (settled : l.Settles l' loan now)

theorem Advance.ledgerMove {errands : List Errand} {h : List (Happening Desk)} {i : Nat} {e : Errand}
    {deed deed' : Deed} {st st' : Stores} (a : Advance e deed st deed' st')
    (named : errands[i]? = some e) (so_far : Deed.inHistory h i = deed)
    (numbered : st.ledger.Numbered) : LedgerMove errands h (.step i) st.ledger st'.ledger := by
  cases a with
  | lend call user book there copies free drafted =>
    subst call
    rw [← LoanDraft.userId_of_open? drafted] at user
    rw [← LoanDraft.bookId_of_open? drafted] at book
    exact .opens rfl named user book
      (Ledger.opens_of_create numbered (LoanDraft.before_of_open? drafted))
  | settle call loan there owner borrowed =>
    subst call
    have own := (Ledger.find?_eq_some_iff.mp there).2
    exact .settles rfl named (own ▸ loan) (dated_of_read so_far)
      (Ledger.settles_of_settle (own ▸ there) borrowed rfl)
  | _ => exact .stays rfl

/-! ## Between two moments -/

/-- The loan is as it was, or it was borrowed and has been settled by a call to return, with what that
call saw of the clock. -/
def Lasts (errands : List Errand) (h : List (Happening Desk)) (loan : Loan) (l : Ledger) : Prop :=
  l.find? loan.id = some loan ∨
    loan.status = .borrowed ∧ ∃ i c now, errands[i]? = some (.giveBack c) ∧
      c.payload.loanId = some loan.id ∧ Dated h i now ∧ l.find? loan.id = some (loan.settled now)

/-- One more move. -/
theorem Lasts.move {errands : List Errand} {h x : List (Happening Desk)} {m : Pool.Move Desk}
    {l l' : Ledger} {loan : Loan} (lasts : Lasts errands h loan l)
    (move : LedgerMove errands h m l l') : Lasts errands (h ++ x) loan l' := by
  -- A call that settled the loan still did.
  have grown : ∀ {l : Ledger}, Lasts errands h loan l → Lasts errands (h ++ x) loan l := by
    rintro l (there | ⟨borrowed, i, c, now, call, named, seen, there⟩)
    · exact .inl there
    · exact .inr ⟨borrowed, i, c, now, call, named, seen.append x, there⟩
  cases move with
  | stays same =>
    subst same
    exact grown lasts
  | @opens i c new step call user book opened =>
    -- What is there has another number than the new loan.
    have other : ∀ {stored}, l.find? loan.id = some stored → l'.find? loan.id = some stored := by
      intro stored there
      have ne : loan.id ≠ new.id := by
        intro same
        have below := opened.above _ _ there
        rw [same] at below
        exact absurd below (Int.lt_irrefl _)
      rw [opened.found, if_neg ne, there]
    rcases lasts with there | ⟨borrowed, i, c, now, call, named, seen, there⟩
    · exact .inl (other there)
    · exact .inr ⟨borrowed, i, c, now, call, named, seen.append x, other there⟩
  | @settles i c back now step call named seen settled =>
    by_cases same : loan.id = back.id
    · -- It is this loan. It is borrowed, so it was not settled before.
      rcases lasts with there | ⟨-, -, -, before, -, -, -, there⟩
      · rw [same, settled.there] at there
        cases there
        refine .inr ⟨settled.borrowed, i, c, now, call, named, seen.append x, ?_⟩
        rw [settled.found, if_pos rfl]
      · rw [same, settled.there] at there
        have borrowed := settled.borrowed
        rw [Option.some.inj there] at borrowed
        cases borrowed
    · have other : l'.find? loan.id = l.find? loan.id := by rw [settled.found, if_neg same]
      have kept : Lasts errands h loan l' := by
        rw [Lasts, other]
        exact lasts
      exact grown kept

section Runs

variable {emit : EventSink} {d : Desk}

/-- Every move of a run is a move of the ledger. -/
theorem ledgerMove_of_run (sink : ∀ ev, (emit ev).Public) (errands : List Errand)
    (numbered : d.ledger.Numbered)
    {earlier : List (Pool.Move Desk)} (any : ∀ m ∈ earlier, Permitted (fun _ => True) True m)
    {m : Pool.Move Desk} (ok : Permitted (fun _ => True) True m) :
    let p := (pool emit errands d).run Desk.answer earlier
    LedgerMove errands ((pool emit errands d).history Desk.answer earlier) m p.world.ledger
      (p.move Desk.answer m).world.ledger := by
  intro p
  have begun : Tracked _ (fun _ => True) errands [] (pool emit errands d) :=
    .start trivial (heralded_errands emit _ errands)
  have tracked := (begun.run (fun _ _ => trivial) (pool_orderly sink errands d) any).1
  have orderly : p.Orderly := (pool_orderly sink errands d).run earlier
  have now := (standing_of_run sink errands numbered any).numbered
  rcases tracked.stores_of_move orderly ok with same | ⟨i, e, rfl, named, advance⟩
  · exact .stays (congrArg Stores.ledger same)
  · exact advance.ledgerMove named rfl now

/-- At every move of a run the ledger stays as it is, or one loan is opened, or one is settled. From any
moment to any later one a loan that is stored lasts: nothing about it changes, or it was borrowed and
is returned, and nothing else about it has changed. -/
theorem lifeCycle_of_run (sink : ∀ ev, (emit ev).Public) (errands : List Errand) {d : Desk}
    (numbered : d.ledger.Numbered) :
    (∀ (earlier : List (Pool.Move Desk)) (m : Pool.Move Desk),
      (∀ m' ∈ earlier ++ [m], Permitted (fun _ => True) True m') →
        let p := (pool emit errands d).run Desk.answer earlier
        LedgerMove errands ((pool emit errands d).history Desk.answer earlier) m p.world.ledger
          (p.move Desk.answer m).world.ledger) ∧
    ∀ earlier later : List (Pool.Move Desk),
      (∀ m ∈ earlier ++ later, Permitted (fun _ => True) True m) →
        ∀ (id : LoanId) (loan : Loan),
          ((pool emit errands d).run Desk.answer earlier).world.ledger.find? id = some loan →
            loan.id = id ∧
            Lasts errands ((pool emit errands d).history Desk.answer (earlier ++ later)) loan
              ((pool emit errands d).run Desk.answer (earlier ++ later)).world.ledger := by
  constructor
  · intro earlier m any
    exact ledgerMove_of_run sink errands numbered (fun m' mem => any m' (List.mem_append_left _ mem))
      (any m (List.mem_append_right _ (List.mem_singleton_self m)))
  · intro earlier later any id loan there
    obtain rfl : loan.id = id := (Ledger.find?_eq_some_iff.mp there).2
    refine ⟨rfl, ?_⟩
    induction later using List.reverseRecOn with
    | nil =>
      rw [List.append_nil]
      exact .inl there
    | append_singleton later m ih =>
      rw [← List.append_assoc] at any ⊢
      have before : ∀ m' ∈ earlier ++ later, Permitted (fun _ => True) True m' := fun m' mem =>
        any m' (List.mem_append_left _ mem)
      have move := ledgerMove_of_run sink errands numbered before
        (any m (List.mem_append_right _ (List.mem_singleton_self m)))
      rw [Pool.run_append, Pool.history_append]
      exact (ih before).move move

end Runs

/-- The copy is lent, but the stock cannot be written. -/
def lentUnwritten : List (Pool.Move Desk) :=
  (List.replicate 5 0).map .step ++ failUpdates :: (List.replicate 3 0).map .step

/-- The copy is returned after that. -/
def returnedLater : List (Pool.Move Desk) := (List.replicate 12 1).map .step

theorem permitted_returnedLater :
    ∀ m ∈ lentUnwritten ++ returnedLater, Permitted (fun _ => True) True m := by
  have steps := permitted_steps (fun _ => True) True
  refine List.forall_mem_append.mpr ⟨List.forall_mem_append.mpr ⟨steps _, ?_⟩, steps _⟩
  exact List.forall_mem_cons.mpr ⟨fun d => ⟨rfl, rfl, id⟩, steps _⟩

/-- The loan of a call that failed lasts, and is settled later by the call to return that names it. -/
theorem lifeCycle_of_run_oneCopy :
    ∃ loan i now,
      ((pool recordingSink [borrowCopy, returnCopy] oneCopy).run Desk.answer
        lentUnwritten).world.ledger.find? ⟨1⟩ = some loan ∧ loan.status = .borrowed ∧
      Dated ((pool recordingSink [borrowCopy, returnCopy] oneCopy).history Desk.answer
        (lentUnwritten ++ returnedLater)) i now ∧
      ((pool recordingSink [borrowCopy, returnCopy] oneCopy).run Desk.answer
        (lentUnwritten ++ returnedLater)).world.ledger.find? ⟨1⟩ = some (loan.settled now) := by
  have stored : (((pool recordingSink [borrowCopy, returnCopy] oneCopy).run Desk.answer
      lentUnwritten).world.ledger.find? ⟨1⟩).map (·.status) = some .borrowed := by decide +kernel
  have returned : (((pool recordingSink [borrowCopy, returnCopy] oneCopy).run Desk.answer
      (lentUnwritten ++ returnedLater)).world.ledger.find? ⟨1⟩).map (·.status) =
        some .returned := by decide +kernel
  obtain ⟨loan, there, borrowed⟩ := Option.map_eq_some_iff.mp stored
  obtain ⟨own, same | ⟨-, i, c, now, -, -, seen, settled⟩⟩ :=
    (lifeCycle_of_run recordingSink_public [borrowCopy, returnCopy] (d := oneCopy)
      Ledger.numbered_empty).2 lentUnwritten returnedLater permitted_returnedLater ⟨1⟩ loan there
  · -- It was borrowed then and is returned now.
    rw [own] at same
    rw [same, Option.map_some, borrowed] at returned
    cases returned
  · rw [own] at settled
    exact ⟨loan, i, now, there, borrowed, seen, settled⟩

end Lending

end Circulation
