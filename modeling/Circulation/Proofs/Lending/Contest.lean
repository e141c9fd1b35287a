/- # Circulation.Proofs.Lending.Contest -- what calls to borrow come to together

Only the holder of the gate changes the stores, so however calls to borrow take turns, the copies of a
book go down one by one and do not come back (`Reaches.dwindles`), and what a call has made it has made
for good (`Reaches.made?_kept`). The ledger then holds the loans that it held and those that the calls
have made, and each call that lent the book has left another number of copies: less than any call left
before it, and no less than there are now (`Contest.step`).
-/
import Circulation.Proofs.Lending.Standing

namespace Circulation

open Time (Instant)

/-! ## The copies go down -/

/-- The book is there still, with no more copies on the shelf than there were. -/
def Shelf.Dwindles (book : BookId) (s s' : Shelf) : Prop :=
  ∀ b, s.find? book = some b →
    ∃ copies, copies ≤ b.availableCopies ∧ s'.find? book = some (b.withCopies copies)

namespace Shelf.Dwindles

variable {book : BookId} {s s' s'' : Shelf}

theorem refl (s : Shelf) : s.Dwindles book s := fun b there => ⟨b.availableCopies, Int.le_refl _, there⟩

theorem trans (h : s.Dwindles book s') (h' : s'.Dwindles book s'') : s.Dwindles book s'' := by
  intro b there
  obtain ⟨copies, le, there'⟩ := h b there
  obtain ⟨copies', le', there''⟩ := h' _ there'
  have le' : copies' ≤ copies := le'
  exact ⟨copies', Int.le_trans le' le, there''⟩

theorem put {id : BookId} {found : Book} (there : s.find? id = some found) {copies : Int}
    (le : copies ≤ found.availableCopies) : s.Dwindles book (s.put (found.withCopies copies)) := by
  intro b listed
  have own : found.id = id := id_of_find? there
  rw [find?_put]
  by_cases same : (found.withCopies copies).id = book
  · have same : id = book := own.symm.trans same
    subst same
    cases Option.some.inj (there.symm.trans listed)
    exact ⟨copies, le, if_pos own⟩
  · rw [if_neg same]
    exact ⟨b.availableCopies, Int.le_refl _, listed⟩

end Shelf.Dwindles

namespace Lending

/-- Nothing but calls to borrow. -/
def AllBorrow (errands : List Errand) : Prop :=
  ∀ (i : Nat) (e : Errand), errands[i]? = some e → ∃ c, e = .borrow c

namespace Deed

/-- How many copies of a book the call has left on the shelf, if it has lent one. -/
def leaves? (book : BookId) : Deed → Option Int
  | lent _ taken => if taken.id = book then some taken.availableCopies else none
  | _ => none

end Deed

/-- A call to borrow settles nothing. -/
theorem Advance.unsettled {c : Command} {deed deed' : Deed} {st st' : Stores}
    (a : Advance (.borrow c) deed st deed' st') (before : deed.settled? = none) :
    deed'.settled? = none := by
  cases a with
  | settle call => cases call
  | restock => cases before
  | stay => exact before
  | _ => rfl

/-- A call that has settled nothing puts no copy back. -/
theorem Advance.dwindles {c : Command} {deed deed' : Deed} {st st' : Stores}
    (a : Advance (.borrow c) deed st deed' st') (before : deed.settled? = none) (book : BookId) :
    st.shelf.Dwindles book st'.shelf := by
  cases a with
  | take there copies =>
    apply Shelf.Dwindles.put there
    omega
  | restock => cases before
  | _ => exact .refl _

/-- What a call has made it has made for good. -/
theorem Advance.made?_kept {e : Errand} {deed deed' : Deed} {st st' : Stores} {loan : Loan}
    (a : Advance e deed st deed' st') (made : deed.made? = some loan) : deed'.made? = some loan := by
  cases a with
  | stay | take => exact made
  | _ => cases made

namespace Shift

variable {may : Faults → Prop} {drops : Prop} {errands : List Errand} {s s' : Shift}

theorem Reaches.made?_kept (reached : Reaches may drops errands s s') {i : Nat} {loan : Loan}
    (made : (s.deeds i).made? = some loan) : (s'.deeds i).made? = some loan := by
  have kept_by_step : ∀ {t t' : Shift}, Step may drops errands t t' →
      (t.deeds i).made? = some loan → (t'.deeds i).made? = some loan := by
    intro t t' step made
    cases step with
    | @advance j e deed st mine named advance =>
      by_cases own : i = j
      · subst own
        show (Function.update t.deeds i deed i).made? = _
        rw [Function.update_self]
        exact advance.made?_kept made
      · show (Function.update t.deeds j deed i).made? = _
        rw [Function.update_of_ne own]
        exact made
    | @glance j r now idle =>
      have ne : i ≠ j := by
        rintro rfl
        rw [idle] at made
        cases made
      show (Function.update t.deeds j _ i).made? = _
      rw [Function.update_of_ne ne]
      exact made
    | _ => exact made
  exact reached.keep kept_by_step made

theorem unsettled_step (all : AllBorrow errands) (h : Step may drops errands s s')
    (before : ∀ i, (s.deeds i).settled? = none) (i : Nat) : (s'.deeds i).settled? = none := by
  cases h with
  | @advance j e deed st mine named advance =>
    obtain ⟨c, rfl⟩ := all j e named
    refine (Function.forall_update_iff s.deeds fun _ deed => deed.settled? = none).mpr
      ⟨advance.unsettled (before j), fun k _ => before k⟩ i
  | @glance j r now idle =>
    exact (Function.forall_update_iff s.deeds fun _ deed => deed.settled? = none).mpr
      ⟨rfl, fun k _ => before k⟩ i
  | _ => exact before i

/-- While all calls borrow, no copy comes back. -/
theorem Reaches.dwindles (all : AllBorrow errands) (reached : Reaches may drops errands s s')
    (unsettled : ∀ i, (s.deeds i).settled? = none) (book : BookId) :
    s.stores.shelf.Dwindles book s'.stores.shelf := by
  let Kept (t : Shift) : Prop :=
    (∀ i, (t.deeds i).settled? = none) ∧ s.stores.shelf.Dwindles book t.stores.shelf
  have kept_by_step : ∀ {t t' : Shift}, Step may drops errands t t' → Kept t → Kept t' := by
    intro t t' step ⟨unsettled, dwindled⟩
    refine ⟨unsettled_step all step unsettled, ?_⟩
    cases step with
    | advance mine named advance =>
      obtain ⟨c, rfl⟩ := all _ _ named
      exact dwindled.trans (advance.dwindles (unsettled _) book)
    | _ => exact dwindled
  exact (reached.keep kept_by_step ⟨unsettled, .refl _⟩).2

end Shift

/-! ## What calls to borrow come to -/

/-- What calls to borrow have come to, from this ledger and so many copies of a book on: the ledger
holds the loans that it held and those that the calls have made, and each call that lent the book left
another number of copies, less than there were and no less than there are. -/
structure Contest (before : Ledger) (book : BookId) (copies : Int) (s : Shift) : Prop where
  unsettled : ∀ i, (s.deeds i).settled? = none
  numbered : s.stores.ledger.Numbered
  loans : ∀ loan, loan ∈ s.stores.ledger.loans.toList ↔
    loan ∈ before.loans.toList ∨ ∃ i, (s.deeds i).made? = some loan
  shelf : ∃ b, s.stores.shelf.find? book = some b ∧ 0 ≤ b.availableCopies ∧
    b.availableCopies ≤ copies ∧
      ∀ i n, (s.deeds i).leaves? book = some n → b.availableCopies ≤ n ∧ n < copies
  apart : ∀ i j n, (s.deeds i).leaves? book = some n → (s.deeds j).leaves? book = some n → i = j

namespace Contest

variable {may : Faults → Prop} {drops : Prop} {errands : List Errand} {before : Ledger}
  {book : BookId} {copies : Int} {s s' : Shift}

theorem start {st : Stores} (numbered : st.ledger.Numbered) {b : Book}
    (there : st.shelf.find? book = some b) (nonneg : 0 ≤ b.availableCopies) :
    Contest st.ledger book b.availableCopies (Shift.start st) where
  unsettled := fun _ => rfl
  numbered := numbered
  loans := by
    intro loan
    show _ ↔ _ ∨ ∃ i : Nat, none = some loan
    simp only [reduceCtorEq, exists_false, or_false]
    rfl
  shelf := ⟨b, there, nonneg, Int.le_refl _, fun i n leaves => by cases leaves⟩
  apart := by
    intro i j n leaves
    cases leaves

/-- A call goes on and has made, settled and left what it had before. -/
theorem update_same (c : Contest before book copies s) {i : Nat} {deed : Deed}
    (made : deed.made? = (s.deeds i).made?) (settled : deed.settled? = (s.deeds i).settled?)
    (leaves : deed.leaves? book = (s.deeds i).leaves? book) :
    Contest before book copies { s with deeds := Function.update s.deeds i deed } where
  unsettled := fun j => (Deed.update_same settled j).trans (c.unsettled j)
  numbered := c.numbered
  loans := by
    simp only [Deed.update_same made]
    exact c.loans
  shelf := by
    simp only [Deed.update_same leaves]
    exact c.shelf
  apart := by
    simp only [Deed.update_same leaves]
    exact c.apart

/-- A loan is made: it is new in the ledger, and no copy is taken yet. -/
theorem make (c : Contest before book copies s) {i : Nat} {r : Option Instant}
    (idle : s.deeds i = .nothing r) (draft : LoanDraft) :
    Contest before book copies ⟨s.holder,
      Function.update s.deeds i (.opened (s.stores.ledger.create draft).1),
      { s.stores with ledger := (s.stores.ledger.create draft).2 }⟩ := by
  have leaves : ∀ j, (Function.update s.deeds i (.opened (s.stores.ledger.create draft).1) j).leaves?
      book = (s.deeds j).leaves? book := Deed.update_same (by rw [idle]; rfl)
  constructor
  case unsettled =>
    intro j
    exact (Deed.update_same (f := Deed.settled?) (by rw [idle]; rfl) j).trans (c.unsettled j)
  case numbered => exact c.numbered.create draft
  case loans =>
    intro loan
    -- No loan gives way to the new one, for its number is new.
    have entered : loan ∈ (s.stores.ledger.create draft).2.loans.toList ↔
        loan = (s.stores.ledger.create draft).1 ∨ loan ∈ s.stores.ledger.loans.toList := by
      refine Register.mem_put.trans (or_congr_right (and_iff_left_of_imp fun mem => ?_))
      have := c.numbered loan mem
      show loan.id.value ≠ s.stores.ledger.nextId
      omega
    have made : (∃ j, (Function.update s.deeds i
          (.opened (s.stores.ledger.create draft).1) j).made? = some loan) ↔
        loan = (s.stores.ledger.create draft).1 ∨ ∃ j, (s.deeds j).made? = some loan := by
      constructor
      · rintro ⟨j, made⟩
        rcases Deed.of_update made with ⟨rfl, new⟩ | ⟨-, old⟩
        · exact .inl (Option.some.inj new).symm
        · exact .inr ⟨j, old⟩
      · rintro (rfl | ⟨j, old⟩)
        · refine ⟨i, ?_⟩
          rw [Function.update_self]
          rfl
        · refine ⟨j, ?_⟩
          rw [Function.update_of_ne]
          · exact old
          · rintro rfl
            rw [idle] at old
            cases old
    show loan ∈ (s.stores.ledger.create draft).2.loans.toList ↔ _
    rw [entered, made, c.loans, or_left_comm]
  case shelf =>
    simp only [leaves]
    exact c.shelf
  case apart =>
    simp only [leaves]
    exact c.apart

/-- A copy is taken: what is left is less than any call left before. -/
theorem take (c : Contest before book copies s) {i : Nat} {loan : Loan} {found : Book}
    (opened : s.deeds i = .opened loan) (there : s.stores.shelf.find? loan.bookId = some found)
    (some_left : 1 ≤ found.availableCopies) :
    Contest before book copies ⟨s.holder,
      Function.update s.deeds i (.lent loan (found.withCopies (found.availableCopies - 1))),
      { s.stores with shelf := s.stores.shelf.put (found.withCopies (found.availableCopies - 1)) }⟩ := by
  let taken := found.withCopies (found.availableCopies - 1)
  have made : ∀ j, (Function.update s.deeds i (.lent loan taken) j).made? = (s.deeds j).made? :=
    Deed.update_same (by rw [opened]; rfl)
  have unsettled : ∀ j, (Function.update s.deeds i (.lent loan taken) j).settled? = none := fun j =>
    (Deed.update_same (f := Deed.settled?) (by rw [opened]; rfl) j).trans (c.unsettled j)
  have loans : ∀ l, l ∈ s.stores.ledger.loans.toList ↔ l ∈ before.loans.toList ∨
      ∃ j, (Function.update s.deeds i (.lent loan taken) j).made? = some l := by
    simp only [made]
    exact c.loans
  obtain ⟨b, listed, nonneg, le, others⟩ := c.shelf
  by_cases same : found.id = book
  · -- The book was there as it was found, so each call before has left more than this one.
    have found_eq : found = b := by
      rw [← same, Shelf.id_of_find? there, there] at listed
      exact Option.some.inj listed
    subst found_eq
    have now : Shelf.find? (s.stores.shelf.put taken) book = some taken := by
      rw [Shelf.find?_put]
      exact if_pos same
    have own : Deed.leaves? book (.lent loan taken) = some (found.availableCopies - 1) := if_pos same
    refine ⟨unsettled, c.numbered, loans, ⟨taken, now, ?_, ?_, ?_⟩, ?_⟩
    · show 0 ≤ found.availableCopies - 1
      omega
    · show found.availableCopies - 1 ≤ copies
      omega
    · intro j n leaves
      show found.availableCopies - 1 ≤ n ∧ n < copies
      rcases Deed.of_update leaves with ⟨-, new⟩ | ⟨-, old⟩
      · have := Option.some.inj (own.symm.trans new)
        omega
      · have := others j n old
        omega
    · intro j k n leaves_j leaves_k
      rcases Deed.of_update leaves_j with ⟨rfl, new_j⟩ | ⟨-, old_j⟩ <;>
        rcases Deed.of_update leaves_k with ⟨rfl, new_k⟩ | ⟨-, old_k⟩
      · rfl
      · have := Option.some.inj (own.symm.trans new_j)
        have := others k n old_k
        omega
      · have := Option.some.inj (own.symm.trans new_k)
        have := others j n old_j
        omega
      · exact c.apart j k n old_j old_k
  · have leaves : ∀ j, (Function.update s.deeds i (.lent loan taken) j).leaves? book =
        (s.deeds j).leaves? book := by
      refine Deed.update_same ?_
      rw [opened]
      exact if_neg same
    have now : Shelf.find? (s.stores.shelf.put taken) book = some b := by
      rw [Shelf.find?_put]
      exact (if_neg same).trans listed
    refine ⟨unsettled, c.numbered, loans, ⟨b, now, nonneg, le, fun j n left_ => ?_⟩,
      fun j k n left_j left_k => ?_⟩
    · exact others j n ((leaves j).symm.trans left_)
    · exact c.apart j k n ((leaves j).symm.trans left_j) ((leaves k).symm.trans left_k)

theorem step (all : AllBorrow errands) (h : Shift.Step may drops errands s s')
    (c : Contest before book copies s) : Contest before book copies s' := by
  cases h with
  | @advance i e deed st mine named advance =>
    obtain ⟨command, rfl⟩ := all i e named
    generalize was : s.deeds i = old at advance
    generalize here : s.stores = st₀ at advance
    cases advance with
    | stay | read =>
      subst here
      exact c.update_same (congrArg Deed.made? was).symm (congrArg Deed.settled? was).symm
        (congrArg (Deed.leaves? book) was).symm
    | lend call =>
      subst here
      exact c.make was _
    | take there copies =>
      subst here
      exact c.take was there copies
    | settle call => cases call
    | restock =>
      have := c.unsettled i
      rw [was] at this
      cases this
  | @glance i r now idle =>
    exact c.update_same (congrArg Deed.made? idle).symm (congrArg Deed.settled? idle).symm
      (congrArg (Deed.leaves? book) idle).symm
  | enter => exact ⟨c.unsettled, c.numbered, c.loans, c.shelf, c.apart⟩
  | leave => exact ⟨c.unsettled, c.numbered, c.loans, c.shelf, c.apart⟩
  | abandon => exact ⟨c.unsettled, c.numbered, c.loans, c.shelf, c.apart⟩

end Contest

end Lending

end Circulation
