/- # Circulation.Proofs.Database.Agreement -- a table and a desk with the same loans

A table whose rows are the loans of a desk, in any order, answers a call to the store of loans as the desk
does, and after the call the rows are again the loans of the desk (`Agree.step`). Both look a loan up by
its number, which no other loan has; both put a new loan under the next number; both settle a loan in
place. The condition for an active loan they state differently: the table also asks that there be no
return date. That a borrowed loan has none is therefore part of what is kept, and so is that the next
number is one of sixty-four bits, as long as there are numbers for the loans that are asked for.
-/
import Circulation.Proofs.Database.Statements
import Circulation.Proofs.Store.Laws
import Circulation.Store.Desk

namespace Circulation.Database

open Time (Instant)

/-- What a call to the store of loans may ask for: its numbers are of sixty-four bits, its times of this
kind, and the book of a loan is there. -/
def Fits (kind : Instant → Prop) (books : BookId → Prop) : StoreCall → Prop
  | .findBook _ | .saveBook _ => False
  | .findLoan id => Fits64 id.value
  | .hasActiveLoan user book => Fits64 user.value ∧ Fits64 book.value
  | .createLoan d => (Fits64 d.userId.value ∧ Fits64 d.bookId.value) ∧
      kind d.loanDate ∧ kind d.dueDate ∧ books d.bookId
  | .markReturned id user at_ => (Fits64 id.value ∧ Fits64 user.value) ∧ kind at_

/-- The loans of a table in the order of its rows, with the number of the next one, and a desk with the
same loans, where no fault of the store of loans is switched on. -/
structure Agree (books : BookId → Prop) (loans : List Loan) (next : Int) (d : Desk) : Prop where
  enterable : ∀ l ∈ loans, Enterable books l
  unreturned : ∀ l ∈ loans, l.status = .borrowed → l.returnDate = none
  perm : loans.Perm d.ledger.loans.toList
  bounded : Fits64 next
  next : next = d.ledger.nextId
  numbered : d.ledger.Numbered
  creates : d.faults.failCreates = false
  returns : d.faults.loseNextReturn = false

namespace Agree

variable {books : BookId → Prop} {loans : List Loan} {next : Int} {d : Desk}

theorem mem_iff (h : Agree books loans next d) {l : Loan} :
    l ∈ loans ↔ d.ledger.find? l.id = some l := by
  rw [Ledger.find?_eq_some_iff, h.perm.mem_iff]
  simp

/-- A number is that of one loan only. -/
theorem eq_of_id (h : Agree books loans next d) {l loan : Loan} (mem : l ∈ loans)
    (there : d.ledger.find? loan.id = some loan) (same : l.id = loan.id) : l = loan := by
  have here := h.mem_iff.mp mem
  rw [same, there] at here
  exact (Option.some.inj here).symm

theorem find?_eq (h : Agree books loans next d) (id : LoanId) :
    (loans.find? fun l => l.id = id) = d.ledger.find? id := by
  cases there : d.ledger.find? id with
  | none =>
    rw [List.find?_eq_none]
    intro l mem same
    obtain rfl : l.id = id := of_decide_eq_true same
    rw [h.mem_iff.mp mem] at there
    cases there
  | some loan =>
    obtain rfl := (Ledger.find?_eq_some_iff.mp there).2
    cases found : loans.find? fun l => l.id = loan.id with
    | none =>
      have := List.find?_eq_none.mp found loan (h.mem_iff.mpr there)
      simp at this
    | some other =>
      have same : other.id = loan.id := by simpa using List.find?_some found
      rw [h.eq_of_id (List.mem_of_find?_eq_some found) there same]

/-- What a table answers to a call and a desk answers to it, and what they are left with, agree. -/
def AfterCall (books : BookId → Prop) (loans : List Loan) (next : Int) (d : Desk) (c : StoreCall) : Prop :=
  ∃ (result : c.Result) (loans' : List Loan) (next' : Int),
    read c ((tableOf loans next).run (statement c)).1 = .ok result ∧
    ((tableOf loans next).run (statement c)).2 = tableOf loans' next' ∧
    (Desk.answerStore c d).1 = .ok result ∧ Agree books loans' next' (Desk.answerStore c d).2

theorem findLoan (h : Agree books loans next d) (id : LoanId) :
    AfterCall books loans next d (.findLoan id) := by
  obtain ⟨answer, table⟩ := run_findLoan loans next id fun l mem =>
    (h.enterable l mem).dated.mono Storable.kept
  exact ⟨_, loans, next, answer, table, congrArg Except.ok (h.find?_eq id).symm, h⟩

theorem createLoan (h : Agree books loans next d) {draft : LoanDraft}
    (fits : Fits Storable books (.createLoan draft)) (room : Fits64 (d.ledger.nextId + 1)) :
    AfterCall books loans next d (.createLoan draft) := by
  obtain ⟨⟨user, number⟩, loaned, due, book⟩ := fits
  obtain ⟨answer, table⟩ := run_createLoan loans next loaned.toWhole due.toWhole
  have stored : Desk.answerStore (.createLoan draft) d =
      (.ok (draft.toLoan ⟨next⟩), { d with ledger := (d.ledger.create draft).2 }) := by
    simp only [Desk.answerStore, h.creates, Bool.false_eq_true, if_false, h.next]
    rfl
  refine ⟨_, _, _, answer, table, by rw [stored], ?_⟩
  rw [stored]
  have new : ∀ l ∈ loans ++ [draft.toLoan ⟨next⟩], l ∈ loans ∨ l = draft.toLoan ⟨next⟩ := by simp
  exact {
    enterable := by
      intro l mem
      rcases new l mem with old | rfl
      · exact h.enterable l old
      · exact ⟨⟨loaned, due, by simp [LoanDraft.toLoan]⟩, ⟨h.bounded, user, number⟩, book⟩
    unreturned := by
      intro l mem borrowed
      rcases new l mem with old | rfl
      · exact h.unreturned l old borrowed
      · rfl
    perm := by
      have fresh : d.ledger.loans.get? (draft.toLoan ⟨d.ledger.nextId⟩).id.value = none :=
        h.numbered.find?_next
      rw [h.next]
      exact (List.perm_append_singleton _ _).trans
        ((h.perm.cons _).trans (Register.perm_put fresh).symm)
    next := by rw [h.next]; rfl
    bounded := by rw [h.next]; exact room
    numbered := h.numbered.create draft
    creates := h.creates
    returns := h.returns }

/-- A borrowed loan is settled in its place in the list, and in the ledger. -/
theorem settle (h : Agree books loans next d) {loan : Loan} (mem : loan ∈ loans) {at_ : Instant}
    (storable : Storable at_) :
    Agree books (loans.map fun l => if l.id.value = loan.id.value then loan.settled at_ else l) next
      { d with
        ledger := d.ledger.settle loan at_, faults := { d.faults with loseNextReturn := false } } := by
  have settled : ∀ l ∈ loans.map (fun l => if l.id.value = loan.id.value then loan.settled at_ else l),
      l = loan.settled at_ ∨ l ∈ loans := by
    intro l there
    obtain ⟨old, member, rfl⟩ := List.mem_map.mp there
    split
    · exact .inl rfl
    · exact .inr member
  exact {
    enterable := by
      intro l there
      rcases settled l there with rfl | old
      · obtain ⟨dated, numbers, book⟩ := h.enterable loan mem
        refine ⟨⟨dated.loaned, dated.due, fun t returned => ?_⟩, ⟨numbers.id, numbers.user, numbers.book⟩,
          book⟩
        cases returned
        exact storable
      · exact h.enterable l old
    unreturned := by
      intro l there borrowed
      rcases settled l there with rfl | old
      · cases borrowed
      · exact h.unreturned l old borrowed
    perm := by
      have there : d.ledger.loans.get? (loan.settled at_).id.value = some loan := h.mem_iff.mp mem
      have put : (d.ledger.settle loan at_).loans.toList = _ := Register.toList_put there
      rw [put]
      exact h.perm.map _
    next := h.next
    bounded := h.bounded
    numbered := h.numbered.settle (h.perm.mem_iff.mp mem) at_
    creates := h.creates
    returns := rfl }

/-- Of the loans with the number, the user and the status of the one there is only this one. -/
theorem map_settled (h : Agree books loans next d) {loan : Loan} (mem : loan ∈ loans)
    (status : loan.status = .borrowed) (at_ : Instant) :
    (loans.map fun l =>
        if l.id = loan.id ∧ l.userId = loan.userId ∧ l.status = .borrowed then l.settled at_ else l) =
      loans.map fun l => if l.id.value = loan.id.value then loan.settled at_ else l := by
  apply List.map_congr_left
  intro l other
  by_cases same : l.id = loan.id
  · obtain rfl := h.eq_of_id other (h.mem_iff.mp mem) same
    simp [status]
  · have apart : ¬l.id.value = loan.id.value := fun eq => same (congrArg LoanId.mk eq)
    rw [if_neg (fun all => same all.1), if_neg apart]

/-- A loan that is settled in the table is settled in the ledger, and none is if there is none to settle. -/
theorem markReturned (h : Agree books loans next d) {id : LoanId} {user : UserId} {at_ : Instant}
    (fits : Fits Storable books (.markReturned id user at_)) :
    AfterCall books loans next d (.markReturned id user at_) := by
  obtain ⟨-, storable⟩ := fits
  obtain ⟨answer, table⟩ := run_markReturned loans next id user storable.toWhole
  by_cases due : ∃ l ∈ loans, l.id = id ∧ l.userId = user ∧ l.status = .borrowed
  · obtain ⟨loan, mem, rfl, rfl, status⟩ := due
    have borrowed : loan.isBorrowed = true := by simp [Loan.isBorrowed, status]
    have settled : Desk.answerStore (.markReturned loan.id loan.userId at_) d =
        (.ok true, { d with
          ledger := d.ledger.settle loan at_, faults := { d.faults with loseNextReturn := false } }) := by
      simp [Desk.answerStore, Ledger.markReturned_of_find? at_ (h.mem_iff.mp mem) borrowed, h.returns]
    have found : (loans.any fun l => l.id = loan.id ∧ l.userId = loan.userId ∧ l.status = .borrowed)
        = true := List.any_eq_true.mpr ⟨loan, mem, by simp [status]⟩
    rw [found] at answer
    rw [h.map_settled mem status] at table
    exact ⟨true, _, next, answer, table, by rw [settled], settled ▸ h.settle mem storable⟩
  · have none_due : ∀ loan, d.ledger.find? id = some loan →
        ¬(loan.userId = user ∧ loan.status = .borrowed) := by
      intro loan there both
      obtain rfl := (Ledger.find?_eq_some_iff.mp there).2
      exact due ⟨loan, h.mem_iff.mpr there, rfl, both⟩
    have nothing : Desk.answerStore (.markReturned id user at_) d = (.ok false, d) := by
      have faults : { d.faults with loseNextReturn := false } = d.faults := by rw [← h.returns]
      simp only [Desk.answerStore, Ledger.markReturned_of_not at_ none_due, Bool.false_and, faults]
    have found : (loans.any fun l => l.id = id ∧ l.userId = user ∧ l.status = .borrowed) = false := by
      rw [List.any_eq_false]
      intro l mem all
      exact due ⟨l, mem, of_decide_eq_true all⟩
    have rows : (loans.map fun l =>
        if l.id = id ∧ l.userId = user ∧ l.status = .borrowed then l.settled at_ else l) = loans := by
      have kept : ∀ l ∈ loans,
          (if l.id = id ∧ l.userId = user ∧ l.status = .borrowed then l.settled at_ else l) = l :=
        fun l mem => if_neg fun all => due ⟨l, mem, all⟩
      rw [List.map_congr_left kept, List.map_id']
    rw [found] at answer
    rw [rows] at table
    exact ⟨false, loans, next, answer, table, by rw [nothing], nothing ▸ h⟩

theorem hasActiveLoan (h : Agree books loans next d) (user : UserId) (book : BookId) :
    AfterCall books loans next d (.hasActiveLoan user book) := by
  obtain ⟨answer, table⟩ := run_hasActiveLoan loans next user book
  have same : (loans.any fun l =>
      l.userId = user ∧ l.bookId = book ∧ l.status = .borrowed ∧ l.returnDate = none) =
      d.ledger.hasActive user book := by
    rw [Bool.eq_iff_iff, Ledger.hasActive_iff, List.any_eq_true]
    simp only [decide_eq_true_eq, ← h.perm.mem_iff]
    constructor
    · rintro ⟨l, mem, borrower, lent, status, -⟩
      exact ⟨l, mem, borrower, lent, status⟩
    · rintro ⟨l, mem, borrower, lent, status⟩
      exact ⟨l, mem, borrower, lent, status, h.unreturned l mem status⟩
  rw [same] at answer
  exact ⟨_, loans, next, answer, table, rfl, h⟩

/-- Whatever may be asked of the store of loans, as long as there is a number for the loan after it, table
and desk give the same answer and still agree. -/
theorem step (h : Agree books loans next d) {c : StoreCall} (fits : Fits Storable books c)
    (room : Fits64 (Desk.answerStore c d).2.ledger.nextId) : AfterCall books loans next d c := by
  cases c with
  | findBook => cases fits
  | saveBook => cases fits
  | findLoan id => exact h.findLoan id
  | createLoan draft =>
    refine h.createLoan fits ?_
    simpa [Desk.answerStore, h.creates, Ledger.create] using room
  | markReturned => exact h.markReturned fits
  | hasActiveLoan user book => exact h.hasActiveLoan user book

end Agree

end Circulation.Database
