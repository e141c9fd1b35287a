/- # Circulation.Proofs.Lending.ActiveLoan -- a user has a book at most once

Nothing in the ledger forbids two borrowed loans of one book to one user. The ledger stays without
them because the call that stores a loan has looked before, and is still behind the gate when it
stores: in the advance `lend` both happen on the same stores. Settling only takes borrowed loans away.
-/
import Circulation.Proofs.Lending.Shift

namespace Circulation

open Time (Instant)

namespace Ledger

/-- Two borrowed loans of one book to one user are one loan. -/
def SingleActive (l : Ledger) : Prop :=
  ∀ a ∈ l.loans.toList, ∀ b ∈ l.loans.toList, a.isBorrowed = true → b.isBorrowed = true →
    a.userId = b.userId → a.bookId = b.bookId → a = b

theorem singleActive_empty : empty.SingleActive := by
  intro a mem
  exact absurd mem List.not_mem_nil

theorem not_borrowed_of_hasActive {l : Ledger} {user : UserId} {book : BookId}
    (free : l.hasActive user book = false) {loan : Loan} (mem : loan ∈ l.loans.toList)
    (same_user : loan.userId = user) (same_book : loan.bookId = book) : loan.isBorrowed = false := by
  have idle := List.any_eq_false.mp free loan mem
  subst same_user
  subst same_book
  simpa [Loan.isActiveFor] using idle

/-- A loan for which none is active yet can be stored. -/
theorem SingleActive.create {l : Ledger} (h : l.SingleActive) {draft : LoanDraft}
    (free : l.hasActive draft.userId draft.bookId = false) : (l.create draft).2.SingleActive := by
  have alone : ∀ b ∈ l.loans.toList, b.isBorrowed = true → b.userId = draft.userId →
      b.bookId = draft.bookId → False := by
    intro b mem borrowed same_user same_book
    rw [not_borrowed_of_hasActive free mem same_user same_book] at borrowed
    cases borrowed
  intro a mem_a b mem_b borrowed_a borrowed_b same_user same_book
  rcases Register.mem_put.mp mem_a with rfl | ⟨mem_a, -⟩
  · rcases Register.mem_put.mp mem_b with rfl | ⟨mem_b, -⟩
    · rfl
    · exact (alone b mem_b borrowed_b same_user.symm same_book.symm).elim
  · rcases Register.mem_put.mp mem_b with rfl | ⟨mem_b, -⟩
    · exact (alone a mem_a borrowed_a same_user same_book).elim
    · exact h a mem_a b mem_b borrowed_a borrowed_b same_user same_book

theorem SingleActive.settle {l : Ledger} (h : l.SingleActive) (loan : Loan) (at_ : Instant) :
    (l.settle loan at_).SingleActive := by
  -- What is borrowed after the settling was there before it.
  have before : ∀ a ∈ (l.settle loan at_).loans.toList, a.isBorrowed = true →
      a ∈ l.loans.toList := by
    intro a mem borrowed
    rcases Register.mem_put.mp mem with rfl | ⟨mem, -⟩
    · cases borrowed
    · exact mem
  intro a mem_a b mem_b borrowed_a borrowed_b
  exact h a (before a mem_a borrowed_a) b (before b mem_b borrowed_b) borrowed_a borrowed_b

end Ledger

namespace Lending

theorem Advance.singleActive {e : Errand} {deed deed' : Deed} {st st' : Stores}
    (a : Advance e deed st deed' st') (before : st.ledger.SingleActive) :
    st'.ledger.SingleActive := by
  cases a with
  | lend call named wanted there copies free drafted =>
    refine before.create ?_
    rw [LoanDraft.userId_of_open? drafted, LoanDraft.bookId_of_open? drafted]
    exact free
  | settle => exact before.settle _ _
  | _ => exact before

theorem Shift.singleActive_step {may : Faults → Prop} {drops : Prop} {errands : List Errand}
    {s s' : Shift} (h : Step may drops errands s s') (before : s.stores.ledger.SingleActive) :
    s'.stores.ledger.SingleActive := by
  cases h with
  | advance mine named advance => exact advance.singleActive before
  | _ => exact before

/-- Whatever the schedule, the faults and the calls that are given up, no user ever has two borrowed
loans of one book, if no user had at the start. -/
theorem singleActive_of_run {emit : EventSink} (sink : ∀ ev, (emit ev).Public)
    (errands : List Errand) {d : Desk} (single : d.ledger.SingleActive)
    {schedule : List (Pool.Move Desk)} (any : ∀ m ∈ schedule, Permitted (fun _ => True) True m) :
    ((pool emit errands d).run Desk.answer schedule).world.ledger.SingleActive := by
  have reached := reaches_run sink (fun _ _ => trivial) errands (d := d) trivial any
  exact reached.keep Shift.singleActive_step single

/-- The same user asks for a book in two calls at once, and the first is given up behind the gate,
after its loan was stored. -/
theorem singleActive_of_run_oneCopy :
    let schedule : List (Pool.Move Desk) :=
      [0, 1, 0, 0, 0, 0].map .step ++ .drop 0 :: (List.replicate 8 1).map .step
    let p := (pool recordingSink [borrowCopy, borrowCopy] oneCopy).run Desk.answer schedule
    p.world.ledger.out ⟨1⟩ = 1 ∧ p.world.ledger.SingleActive := by
  refine ⟨by decide, ?_⟩
  refine singleActive_of_run recordingSink_public _ Ledger.singleActive_empty fun m mem => ?_
  rcases List.mem_append.mp mem with early | late
  · exact permitted_steps _ _ _ m early
  · rcases List.mem_cons.mp late with rfl | late
    · trivial
    · exact permitted_steps _ _ _ m late

end Lending

end Circulation
