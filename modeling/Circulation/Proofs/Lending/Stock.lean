/- # Circulation.Proofs.Lending.Stock -- what is on the shelf and what is out

The stock of a book is what is on the shelf and what is out. A call to borrow writes the loan first
and the shelf after it, a call to return settles the loan first and then writes the shelf, so between
its two writes a call owes the stock one copy, or is owed one. Nothing else moves the stock: it is
what it was at the start and what the calls owe (`Accounted`). Without faults every call that leaves
the gate owes nothing (`Level`), so the stock stays and a book never has more copies out than it has.
-/
import Circulation.Proofs.Lending.Shift
import Mathlib.Algebra.BigOperators.Ring.Finset
import Mathlib.Data.Fintype.BigOperators

namespace Circulation

open Finset (univ)

/-! ## The stock of a book -/

namespace Stores

/-- The copies on the shelf and the copies out, if the book is in the catalogue. -/
def stock? (st : Stores) (book : BookId) : Option Int :=
  (st.shelf.find? book).map fun b => b.availableCopies + st.ledger.out book

theorem stock?_of_find? {st : Stores} {book : BookId} {b : Book} (there : st.shelf.find? book = some b) :
    st.stock? book = some (b.availableCopies + st.ledger.out book) := by
  rw [stock?, there]
  rfl

theorem stock?_ledger {st : Stores} {l : Ledger} {book : BookId} {change : Int}
    (moved : (l.out book : Int) = st.ledger.out book + change) :
    ({ st with ledger := l } : Stores).stock? book = (st.stock? book).map (· + change) := by
  simp only [stock?, Option.map_map]
  congr
  funext b
  show b.availableCopies + l.out book = b.availableCopies + st.ledger.out book + change
  omega

theorem stock?_put {st : Stores} {id : BookId} {found : Book}
    (there : st.shelf.find? id = some found) (copies : Int) (book : BookId) :
    ({ st with shelf := st.shelf.put (found.withCopies copies) } : Stores).stock? book =
      (st.stock? book).map (· + if id = book then copies - found.availableCopies else 0) := by
  have own : found.id = id := Shelf.id_of_find? there
  simp only [stock?, Shelf.find?_put]
  show Option.map _ (if found.id = book then _ else _) = _
  by_cases same : id = book
  · subst same
    rw [if_pos own, if_pos rfl, there]
    show some (copies + st.ledger.out id) =
      some (found.availableCopies + st.ledger.out id + (copies - found.availableCopies))
    congr 1
    omega
  · have other : found.id ≠ book := fun eq => same (own.symm.trans eq)
    simp only [if_neg other, if_neg same, Int.add_zero, Option.map_id']

end Stores

namespace Lending

/-! ## What a call owes -/

namespace Errand

/-- One to borrow this book, that has stored its loan but not the stock. -/
def leftLoan (book : BookId) : Errand → Deed → Bool
  | borrow c, .opened _ => decide (c.payload.bookId = some book)
  | _, _ => false

/-- One to return, that has settled a loan of this book but not written the stock. -/
def leftReturn (book : BookId) : Errand → Deed → Bool
  | giveBack _, .settled loan => decide (loan.bookId = book)
  | _, _ => false

/-- By how much a call has moved the stock of a book so far. -/
def owed (book : BookId) (e : Errand) (deed : Deed) : Int :=
  (if e.leftLoan book deed then 1 else 0) - if e.leftReturn book deed then 1 else 0

/-- A deed that the call can have done. -/
def Fits : Errand → Deed → Prop
  | _, .nothing _ => True
  | borrow c, .opened loan | borrow c, .lent loan _ => c.payload.bookId = some loan.bookId
  | giveBack c, .settled loan | giveBack c, .restocked loan _ => c.payload.loanId = some loan.id
  | _, _ => False

variable {e : Errand} {book : BookId}

@[simp]
theorem owed_nothing (r : Option Time.Instant) : e.owed book (.nothing r) = 0 := by cases e <;> rfl

@[simp]
theorem owed_lent (loan : Loan) (b : Book) : e.owed book (.lent loan b) = 0 := by cases e <;> rfl

@[simp]
theorem owed_restocked (loan : Loan) (b : Book) : e.owed book (.restocked loan b) = 0 := by
  cases e <;> rfl

theorem owed_opened {loan : Loan} (fits : e.Fits (.opened loan)) :
    e.owed book (.opened loan) = if loan.bookId = book then 1 else 0 := by
  cases e with
  | borrow c =>
    have wanted : c.payload.bookId = some loan.bookId := fits
    simp [owed, leftLoan, leftReturn, wanted]
  | giveBack c => exact fits.elim

theorem owed_settled {loan : Loan} (fits : e.Fits (.settled loan)) :
    e.owed book (.settled loan) = if loan.bookId = book then -1 else 0 := by
  cases e with
  | borrow c => exact fits.elim
  | giveBack c =>
    by_cases same : loan.bookId = book <;> simp [owed, leftLoan, leftReturn, same]

end Errand

/-! ## Advances move the stock by what they owe -/

namespace Advance

variable {e : Errand} {deed deed' : Deed} {st st' : Stores}

theorem fits (a : Advance e deed st deed' st') (before : e.Fits deed) : e.Fits deed' := by
  cases a with
  | stay => exact before
  | read now => cases e <;> trivial
  | lend call named wanted there copies free drafted =>
    subst call
    show _ = some _
    rw [wanted]
    exact congrArg some (LoanDraft.bookId_of_open? drafted).symm
  | take there copies =>
    cases e with
    | borrow c => exact before
    | giveBack c => exact before.elim
  | settle call named there owner borrowed =>
    subst call
    show _ = some _
    rw [named]
    exact congrArg some (Ledger.find?_eq_some_iff.mp there).2.symm
  | restock there room =>
    cases e with
    | borrow c => exact before.elim
    | giveBack c => exact before

theorem stock? (a : Advance e deed st deed' st') (before : e.Fits deed)
    (numbered : st.ledger.Numbered) (book : BookId) :
    st'.stock? book = (st.stock? book).map (· + (e.owed book deed' - e.owed book deed)) := by
  have after := a.fits before
  cases a with
  | stay => simp
  | read => simp
  | @lend c user wanted found draft now st =>
    rw [Errand.owed_opened after, Errand.owed_nothing]
    refine Stores.stock?_ledger ?_
    rw [Ledger.out_create numbered]
    -- The next number is free, so the new loan is one more and hides none.
    show ((_ + if draft.bookId = book then 1 else 0 : Nat) : Int) =
      _ + ((if draft.bookId = book then 1 else 0) - 0)
    split <;> simp
  | @take loan found st there copies =>
    rw [Stores.stock?_put there, Errand.owed_opened before, Errand.owed_lent]
    congr
    funext n
    split <;> omega
  | @settle c id loan now st call named there owner borrowed =>
    rw [Errand.owed_settled after, Errand.owed_nothing]
    refine Stores.stock?_ledger ?_
    have out := Ledger.out_settle (Ledger.find?_eq_some_iff.mp there).1 borrowed now book
    show _ = _ + ((if loan.bookId = book then -1 else 0) - 0)
    split at out <;> rename_i same <;> simp only [same, if_true, if_false] <;> omega
  | @restock loan found st there room =>
    rw [Stores.stock?_put there, Errand.owed_settled before, Errand.owed_restocked]
    congr
    funext n
    split <;> omega

end Advance

/-! ## Every shift is accounted for -/

namespace Shift

variable {may : Faults → Prop} {drops : Prop} {errands : List Errand} {book : BookId} {s s' : Shift}

/-- By how much the calls of a shift have moved the stock of a book. -/
def owed (errands : List Errand) (book : BookId) (s : Shift) : Int :=
  ∑ i : Fin errands.length, errands[i].owed book (s.deeds i)

theorem owed_update {i : Nat} {e : Errand} (named : errands[i]? = some e) (s : Shift) (deed : Deed)
    (st : Stores) :
    owed errands book ⟨s.holder, Function.update s.deeds i deed, st⟩ =
      owed errands book s + (e.owed book deed - e.owed book (s.deeds i)) := by
  obtain ⟨lt, rfl⟩ := List.getElem?_eq_some_iff.mp named
  let place : Fin errands.length := ⟨i, lt⟩
  -- As a sum over the calls, one summand is replaced.
  have replaced : ∀ j : Fin errands.length,
      errands[j].owed book (Function.update s.deeds i deed j) =
        Function.update (fun j : Fin errands.length => errands[j].owed book (s.deeds j)) place
          (errands[i].owed book deed) j := by
    intro j
    by_cases eq : j = place
    · subst eq
      rw [Function.update_self, Function.update_self]
      rfl
    · have apart : (j : Nat) ≠ i := fun same => eq (Fin.ext same)
      rw [Function.update_of_ne apart, Function.update_of_ne eq]
  simp only [owed, replaced]
  rw [Finset.sum_update_of_mem (Finset.mem_univ place),
    ← Finset.add_sum_erase _ _ (Finset.mem_univ place), Finset.sdiff_singleton_eq_erase]
  show _ = errands[i].owed book (s.deeds i) + _ + _
  omega

/-- Whoever looks at the clock owes nothing before and after. -/
theorem owed_glance {i : Nat} {r : Option Time.Instant} (idle : s.deeds i = .nothing r)
    (now : Time.Instant) :
    owed errands book { s with deeds := Function.update s.deeds i (.nothing (some now)) } =
      owed errands book s := by
  refine Finset.sum_congr rfl fun j _ => ?_
  by_cases eq : (j : Nat) = i
  · subst eq
    show _ = errands[j].owed book (s.deeds j)
    rw [idle, Errand.owed_nothing]
    show errands[j].owed book (Function.update s.deeds j _ j) = 0
    rw [Function.update_self, Errand.owed_nothing]
  · show errands[j].owed book (Function.update s.deeds i _ j) = _
    rw [Function.update_of_ne eq]

/-- The deeds fit the calls, the ledger is numbered, and the stock of the book is a starting value
moved by what the calls owe. -/
structure Accounted (errands : List Errand) (book : BookId) (stock : Int) (s : Shift) : Prop where
  fits : ∀ (i : Nat) (e : Errand), errands[i]? = some e → e.Fits (s.deeds i)
  numbered : s.stores.ledger.Numbered
  balance : s.stores.stock? book = some (stock + s.owed errands book)

namespace Accounted

variable {stock : Int}

theorem start {st : Stores} (numbered : st.ledger.Numbered) (now : st.stock? book = some stock) :
    Accounted errands book stock (Shift.start st) where
  fits := by
    intro i e _
    cases e <;> trivial
  numbered := numbered
  balance := by
    have nothing : (Shift.start st).owed errands book = 0 :=
      Finset.sum_eq_zero fun i _ => Errand.owed_nothing none
    rw [nothing, Int.add_zero]
    exact now

theorem fits_update (a : Accounted errands book stock s) {i : Nat} {deed : Deed}
    (own : ∀ e, errands[i]? = some e → e.Fits deed) (j : Nat) (e : Errand)
    (named : errands[j]? = some e) : e.Fits (Function.update s.deeds i deed j) :=
  (Function.forall_update_iff s.deeds fun j deed => ∀ e, errands[j]? = some e → e.Fits deed).mpr
    ⟨own, fun j _ => a.fits j⟩ j e named

theorem step (h : Step may drops errands s s') (a : Accounted errands book stock s) :
    Accounted errands book stock s' := by
  cases h with
  | enter free fresh => exact ⟨a.fits, a.numbered, a.balance⟩
  | @advance i e deed st mine named advance =>
    -- The stock and what is owed move by the same amount.
    refine ⟨a.fits_update fun e' named' => ?_, advance.numbered a.numbered, ?_⟩
    · cases Option.some.inj (named.symm.trans named')
      exact advance.fits (a.fits i e named)
    · rw [owed_update named, advance.stock? (a.fits i e named) a.numbered, a.balance]
      exact congrArg some (Int.add_assoc ..)
  | @glance i r now idle =>
    refine ⟨a.fits_update fun e _ => ?_, a.numbered, ?_⟩
    · cases e <;> trivial
    · rw [owed_glance idle]
      exact a.balance
  | leave mine named exit => exact ⟨a.fits, a.numbered, a.balance⟩
  | abandon ok mine => exact ⟨a.fits, a.numbered, a.balance⟩

end Accounted

end Shift

/-! ## Without faults nothing stays owed -/

/-- The book is in the catalogue with so many copies in all, and on the shelf is what is owed. -/
def Holds (st : Stores) (book : BookId) (total owed : Int) : Prop :=
  ∃ b, st.shelf.find? book = some b ∧ b.totalCopies = total ∧ 0 ≤ b.availableCopies ∧
    owed ≤ b.availableCopies

theorem Advance.holds {e : Errand} {deed deed' : Deed} {st st' : Stores} {book : BookId} {total : Int}
    (a : Advance e deed st deed' st') (fits : e.Fits deed)
    (before : Holds st book total (e.owed book deed)) : Holds st' book total (e.owed book deed') := by
  have after := a.fits fits
  obtain ⟨b, here, copies_eq, nonneg, enough⟩ := before
  cases a with
  | stay => exact ⟨b, here, copies_eq, nonneg, enough⟩
  | read => exact ⟨b, here, copies_eq, nonneg, by simpa using nonneg⟩
  | @lend c user wanted found draft now st call named want there copies free drafted =>
    -- The call looked for a copy before it stored the loan.
    refine ⟨b, here, copies_eq, nonneg, ?_⟩
    rw [Errand.owed_opened after]
    show (if draft.bookId = book then 1 else 0) ≤ b.availableCopies
    split
    · rename_i same
      rw [LoanDraft.bookId_of_open? drafted] at same
      subst same
      cases Option.some.inj (there.symm.trans here)
      exact copies
    · exact nonneg
  | @take loan found st there copies =>
    rw [Errand.owed_lent]
    by_cases same : found.id = book
    · have found_eq : found = b := by
        rw [← same, Shelf.id_of_find? there, there] at here
        exact Option.some.inj here
      subst found_eq
      have least : 0 ≤ found.availableCopies - 1 := by omega
      refine ⟨found.withCopies (found.availableCopies - 1), ?_, copies_eq, least, least⟩
      rw [Shelf.find?_put]
      exact if_pos same
    · refine ⟨b, ?_, copies_eq, nonneg, nonneg⟩
      rw [Shelf.find?_put]
      exact (if_neg same).trans here
  | settle =>
    -- A return is owed a copy, and the shelf need not have it yet.
    refine ⟨b, here, copies_eq, nonneg, ?_⟩
    rw [Errand.owed_settled after]
    split <;> omega
  | @restock loan found st there room =>
    rw [Errand.owed_restocked]
    by_cases same : found.id = book
    · have found_eq : found = b := by
        rw [← same, Shelf.id_of_find? there, there] at here
        exact Option.some.inj here
      subst found_eq
      have least : 0 ≤ found.availableCopies + 1 := by omega
      refine ⟨found.withCopies (found.availableCopies + 1), ?_, copies_eq, least, least⟩
      rw [Shelf.find?_put]
      exact if_pos same
    · refine ⟨b, ?_, copies_eq, nonneg, nonneg⟩
      rw [Shelf.find?_put]
      exact (if_neg same).trans here

/-- Without faults a call owes nothing when it leaves the gate, unless it gives back a copy to a shelf
that has them all. -/
theorem Exit.owed_eq_zero {e : Errand} {deed : Deed} {st : Stores} {v : Verdict} {book : BookId}
    {b : Book} (exit : Exit (· = Faults.none) e deed st v) (fits : e.Fits deed)
    (here : st.shelf.find? book = some b)
    (room : e.owed book deed = -1 → b.availableCopies < b.totalCopies) : e.owed book deed = 0 := by
  cases exit with
  | refused | unreachable | settledBefore => exact Errand.owed_nothing _
  | lent => exact Errand.owed_lent ..
  | restocked => exact Errand.owed_restocked ..
  | stockUnwritten faulty =>
    obtain ⟨s, rfl, flag⟩ := faulty
    cases flag
  | raceLost faulty =>
    obtain ⟨s, rfl, flag⟩ := faulty
    cases flag
  | notRestocked faulty =>
    obtain ⟨s, rfl, flag | flag⟩ := faulty <;> cases flag
  | bookGone gone =>
    rw [Errand.owed_settled fits]
    refine if_neg fun same => ?_
    rw [same, here] at gone
    cases gone
  | fullyStocked there full =>
    rw [Errand.owed_settled fits] at room ⊢
    refine if_neg fun same => ?_
    rw [same, here] at there
    cases Option.some.inj there
    have := room (if_pos same)
    omega

namespace Shift

variable {errands : List Errand} {book : BookId} {stock total : Int} {s s' : Shift}

/-- The stock is accounted for, at most the holder owes something, and the copies suffice. -/
structure Level (errands : List Errand) (book : BookId) (stock total : Int) (s : Shift) : Prop where
  accounted : Accounted errands book stock s
  idle : ∀ (i : Nat) (e : Errand), errands[i]? = some e → s.holder ≠ some i →
    e.owed book (s.deeds i) = 0
  holds : Holds s.stores book total (s.owed errands book)

namespace Level

theorem owed_of_free (l : Level errands book stock total s) (free : s.holder = none) :
    s.owed errands book = 0 := by
  refine Finset.sum_eq_zero fun i _ => l.idle i errands[i] (List.getElem?_eq_getElem i.isLt) ?_
  rw [free]
  exact (Option.some_ne_none _).symm

theorem owed_of_holder (l : Level errands book stock total s) {i : Nat} {e : Errand}
    (mine : s.holder = some i) (named : errands[i]? = some e) :
    s.owed errands book = e.owed book (s.deeds i) := by
  obtain ⟨lt, rfl⟩ := List.getElem?_eq_some_iff.mp named
  refine Finset.sum_eq_single (⟨i, lt⟩ : Fin errands.length) (fun j _ ne => ?_)
    fun out => absurd (Finset.mem_univ _) out
  refine l.idle j errands[j] (List.getElem?_eq_getElem j.isLt) fun held => ne (Fin.ext ?_)
  exact Option.some.inj (held.symm.trans mine)

theorem start {st : Stores} {b : Book} (numbered : st.ledger.Numbered)
    (here : st.shelf.find? book = some b) (nonneg : 0 ≤ b.availableCopies) :
    Level errands book (b.availableCopies + st.ledger.out book) b.totalCopies (Shift.start st) := by
  have accounted : Accounted errands book (b.availableCopies + st.ledger.out book) (Shift.start st) :=
    .start numbered (Stores.stock?_of_find? here)
  have nothing : (Shift.start st).owed errands book = 0 :=
    Finset.sum_eq_zero fun i _ => Errand.owed_nothing none
  refine ⟨accounted, fun i e _ _ => Errand.owed_nothing none, ?_⟩
  rw [nothing]
  exact ⟨b, here, rfl, nonneg, nonneg⟩

theorem step (within : stock ≤ total) (h : Step (· = Faults.none) False errands s s')
    (l : Level errands book stock total s) : Level errands book stock total s' := by
  have accounted := l.accounted.step h
  cases h with
  | @enter i free fresh =>
    refine ⟨accounted, fun j e named _ => l.idle j e named ?_, l.holds⟩
    rw [free]
    exact (Option.some_ne_none _).symm
  | @advance i e deed st mine named advance =>
    refine ⟨accounted, fun j e' named' away => ?_, ?_⟩
    · have apart : j ≠ i := by
        rintro rfl
        exact away mine
      show e'.owed book (Function.update s.deeds i deed j) = 0
      rw [Function.update_of_ne apart]
      exact l.idle j e' named' away
    · have before := l.holds
      rw [l.owed_of_holder mine named] at before
      rw [owed_update named, l.owed_of_holder mine named, Int.add_comm, Int.sub_add_cancel]
      exact advance.holds (l.accounted.fits i e named) before
  | @glance i r now idle =>
    refine ⟨accounted, fun j e named away => ?_, ?_⟩
    · show e.owed book (Function.update s.deeds i _ j) = 0
      by_cases eq : j = i
      · subst eq
        rw [Function.update_self, Errand.owed_nothing]
      · rw [Function.update_of_ne eq]
        exact l.idle j e named away
    · rw [owed_glance idle]
      exact l.holds
  | @leave i e v mine named exit =>
    refine ⟨accounted, fun j e' named' _ => ?_, l.holds⟩
    by_cases eq : j = i
    · subst eq
      cases Option.some.inj (named.symm.trans named')
      obtain ⟨b, here, total_eq, -⟩ := l.holds
      refine exit.owed_eq_zero (l.accounted.fits j e named) here fun minus => ?_
      -- A copy is out that the shelf lacks, since the stock is at most what the book has.
      have balance := l.accounted.balance
      rw [Stores.stock?_of_find? here, l.owed_of_holder mine named, minus] at balance
      have := Option.some.inj balance
      omega
    · refine l.idle j e' named' fun held => eq ?_
      exact Option.some.inj (held.symm.trans mine)
  | abandon ok => exact ok.elim

/-- No more copies are out than the book has. -/
theorem out_le (within : stock ≤ total) (l : Level errands book stock total s) :
    ∃ b, s.stores.shelf.find? book = some b ∧ b.totalCopies = total ∧
      s.stores.ledger.out book ≤ b.totalCopies := by
  obtain ⟨b, here, total_eq, nonneg, enough⟩ := l.holds
  have balance := l.accounted.balance
  rw [Stores.stock?_of_find? here] at balance
  have := Option.some.inj balance
  exact ⟨b, here, total_eq, by omega⟩

end Level

end Shift

/-! ## The stock of a run -/

theorem Shift.owed_eq_card (errands : List Errand) (book : BookId) (s : Shift) :
    s.owed errands book =
      (univ.filter fun i : Fin errands.length => errands[i].leftLoan book (s.deeds i)).card -
        (univ.filter fun i : Fin errands.length => errands[i].leftReturn book (s.deeds i)).card := by
  rw [Finset.natCast_card_filter, Finset.natCast_card_filter, ← Finset.sum_sub_distrib]
  rfl

/-- Whatever the schedule, the faults and the calls that are given up, at every moment the stock of a
book is what it was, with one for every call to borrow it that stored its loan and not the stock, and
less one for every call to return that settled a loan of it and did not write the stock. Without
faults and without calls given up, it is what it was whenever nobody holds the gate, and no more
copies are ever out than the book has. -/
theorem stock_of_run {emit : EventSink} (sink : ∀ ev, (emit ev).Public) (errands : List Errand)
    {d : Desk} (numbered : d.ledger.Numbered) {book : BookId} {b : Book}
    (registered : d.shelf.find? book = some b) :
    (∀ schedule : List (Pool.Move Desk), (∀ m ∈ schedule, Permitted (fun _ => True) True m) →
      let deeds := Deed.inHistory ((pool emit errands d).history Desk.answer schedule)
      ((pool emit errands d).run Desk.answer schedule).world.stores.stock? book =
        some (b.availableCopies + d.ledger.out book +
          (univ.filter fun i : Fin errands.length => errands[i].leftLoan book (deeds i)).card -
          (univ.filter fun i : Fin errands.length => errands[i].leftReturn book (deeds i)).card)) ∧
    (d.faults = Faults.none → 0 ≤ b.availableCopies →
      b.availableCopies + d.ledger.out book ≤ b.totalCopies →
      ∀ schedule : List (Pool.Move Desk), (∀ m ∈ schedule, Permitted (· = Faults.none) False m) →
        let p := (pool emit errands d).run Desk.answer schedule
        (p.gate.holder = none →
          p.world.stores.stock? book = some (b.availableCopies + d.ledger.out book)) ∧
        ∃ b', p.world.shelf.find? book = some b' ∧ b'.totalCopies = b.totalCopies ∧
          p.world.ledger.out book ≤ b'.totalCopies) := by
  constructor
  · intro schedule permitted deeds
    have begun : Shift.Accounted errands book (b.availableCopies + d.ledger.out book)
        (Shift.start d.stores) := .start numbered (Stores.stock?_of_find? registered)
    have reached := reaches_run sink (fun _ _ => trivial) errands (d := d) trivial permitted
    have accounted := reached.keep Shift.Accounted.step begun
    have balance := accounted.balance
    rw [Shift.owed_eq_card, ← Int.add_sub_assoc] at balance
    exact balance
  · intro faultless nonneg within schedule permitted p
    have begun : Shift.Level errands book (b.availableCopies + d.ledger.out book) b.totalCopies
        (Shift.start d.stores) :=
      @Shift.Level.start errands book d.stores b numbered registered nonneg
    have lasting : Lasting (· = Faults.none) := by
      rintro s rfl
      rfl
    have reached := reaches_run sink lasting errands faultless permitted
    have level := reached.keep (Shift.Level.step within) begun
    refine ⟨fun free => ?_, level.out_le within⟩
    have balance := level.accounted.balance
    rw [level.owed_of_free free, Int.add_zero] at balance
    exact balance

/-- The copy is lent while its stock cannot be written, and then it is given back to a shelf that has
it already. -/
def unwritten : List (Pool.Move Desk) :=
  (List.replicate 5 0).map .step ++ failUpdates :: (List.replicate 3 0 ++ List.replicate 10 1).map .step

theorem permitted_unwritten : ∀ m ∈ unwritten, Permitted (fun _ => True) True m := by
  intro m mem
  rcases List.mem_append.mp mem with early | late
  · exact permitted_steps _ _ _ m early
  · rcases List.mem_cons.mp late with rfl | late
    · exact fun d => ⟨rfl, rfl, id⟩
    · exact permitted_steps _ _ _ m late

/-- One call left its loan, the other its return, so the stock is what it was; and it stays when the
two take turns without faults. -/
theorem stock_of_run_oneCopy :
    ((pool recordingSink [borrowCopy, returnCopy] oneCopy).run Desk.answer
        unwritten).world.stores.stock? ⟨1⟩ = some (1 + 0 + 1 - 1) ∧
      ((pool recordingSink [borrowCopy, returnCopy] oneCopy).run Desk.answer
        ((List.replicate 12 [0, 1]).flatten.map .step)).world.stores.stock? ⟨1⟩ = some (1 + 0) := by
  obtain ⟨general, level⟩ := stock_of_run recordingSink_public [borrowCopy, returnCopy] (d := oneCopy)
    Ledger.numbered_empty (show oneCopy.shelf.find? ⟨1⟩ = some _ from rfl)
  constructor
  · rw [general unwritten permitted_unwritten]
    decide
  · exact (level rfl (by decide) (by decide) _ (permitted_steps _ _ _)).1 (by decide)

end Lending

end Circulation
