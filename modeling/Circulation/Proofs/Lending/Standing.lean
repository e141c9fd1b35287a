/- # Circulation.Proofs.Lending.Standing -- which loans the calls made and which they settled

A loan that a call makes gets a number that no loan had before, and stays under it: as it was made,
or as some call settled it. A loan that a call settles was borrowed until then, and is never touched
again. So every loan is made by at most one call and settled by at most one. Of two loans of one book
to one user that calls made, the older was settled before the younger was made, because whoever makes
a loan has found that none is active. All this holds in every shift (`Standing.step`).
-/
import Circulation.Proofs.Lending.ActiveLoan

namespace Circulation

open Time (Instant)

namespace Loan

@[simp]
theorem isBorrowed_settled (l : Loan) (at_ : Instant) : (l.settled at_).isBorrowed = false := rfl

end Loan

/-! ## What becomes of a loan -/

namespace Ledger

/-- The loans of the one ledger are in the other as well, but borrowed ones may have been settled. -/
def Onward (l l' : Ledger) : Prop :=
  ∀ id loan, l.find? id = some loan →
    l'.find? id = some loan ∨
      loan.isBorrowed = true ∧ ∃ at_, l'.find? id = some (loan.settled at_)

theorem Onward.refl (l : Ledger) : l.Onward l := fun _ _ there => .inl there

theorem Onward.trans {l l' l'' : Ledger} (h : l.Onward l') (h' : l'.Onward l'') : l.Onward l'' := by
  intro id loan there
  rcases h id loan there with kept | ⟨borrowed, at_, settled⟩
  · exact h' id loan kept
  · -- Settled once, it is not borrowed any more and stays.
    rcases h' id _ settled with kept | ⟨again, -⟩
    · exact .inr ⟨borrowed, at_, kept⟩
    · rw [Loan.isBorrowed_settled] at again
      cases again

/-- A loan that is settled stays as it is. -/
theorem Onward.find?_of_past {l l' : Ledger} (h : l.Onward l') {id : LoanId} {loan : Loan}
    (there : l.find? id = some loan) (past : loan.isBorrowed = false) :
    l'.find? id = some loan := by
  rcases h id loan there with kept | ⟨borrowed, -⟩
  · exact kept
  · rw [past] at borrowed
    cases borrowed

theorem Numbered.lt_of_find? {l : Ledger} (h : l.Numbered) {id : LoanId} {loan : Loan}
    (there : l.find? id = some loan) : loan.id.value < l.nextId :=
  h loan (find?_eq_some_iff.mp there).1

/-- A number in use is not the one that the next loan gets. -/
theorem Numbered.ne_next_of_find? {l : Ledger} (h : l.Numbered) {id : LoanId} {loan : Loan}
    (there : l.find? id = some loan) : id ≠ ⟨l.nextId⟩ := by
  rintro rfl
  rw [h.find?_next] at there
  cases there

theorem Numbered.onward_create {l : Ledger} (h : l.Numbered) (draft : LoanDraft) :
    l.Onward (l.create draft).2 := by
  intro id loan there
  rw [find?_create, if_neg (h.ne_next_of_find? there)]
  exact .inl there

theorem onward_settle {l : Ledger} {loan : Loan} (there : l.find? loan.id = some loan)
    (borrowed : loan.isBorrowed = true) (at_ : Instant) : l.Onward (l.settle loan at_) := by
  intro id other found
  rw [find?_settle]
  by_cases same : id = loan.id
  · subst same
    cases Option.some.inj (there.symm.trans found)
    rw [if_pos rfl]
    exact .inr ⟨borrowed, at_, rfl⟩
  · rw [if_neg same]
    exact .inl found

end Ledger

namespace Lending

theorem Advance.onward {e : Errand} {deed deed' : Deed} {st st' : Stores}
    (a : Advance e deed st deed' st') (numbered : st.ledger.Numbered) :
    st.ledger.Onward st'.ledger := by
  cases a with
  | lend => exact numbered.onward_create _
  | settle _ _ there _ borrowed =>
    have own := (Ledger.find?_eq_some_iff.mp there).2
    exact Ledger.onward_settle (own ▸ there) borrowed _
  | _ => exact .refl _

/-- Whatever the calls do, loans stay or are settled. -/
theorem Shift.Reaches.onward {may : Faults → Prop} {drops : Prop} {errands : List Errand}
    {s s' : Shift} (reached : Reaches may drops errands s s') (numbered : s.stores.ledger.Numbered) :
    s.stores.ledger.Onward s'.stores.ledger ∧ s'.stores.ledger.Numbered := by
  let Kept (t : Shift) : Prop := s.stores.ledger.Onward t.stores.ledger ∧ t.stores.ledger.Numbered
  have kept_by_step : ∀ {t t' : Shift}, Step may drops errands t t' → Kept t → Kept t' := by
    intro t t' step kept
    cases step with
    | advance mine named advance =>
      exact ⟨kept.1.trans (advance.onward kept.2), advance.numbered kept.2⟩
    | _ => exact kept
  have begun : Kept s := ⟨.refl _, numbered⟩
  exact reached.keep kept_by_step begun

/-! ## Loans that the calls made and settled -/

namespace Deed

/-- The loan that the call has stored. -/
def made? : Deed → Option Loan
  | opened loan | lent loan _ => some loan
  | _ => none

/-- The loan that the call has settled. -/
def settled? : Deed → Option Loan
  | settled loan | restocked loan _ => some loan
  | _ => none

variable {α : Type} {f : Deed → Option α} {deeds : Nat → Deed} {i : Nat} {deed : Deed}

/-- What is read off the deeds after one of them changed is read off that one or as before. -/
theorem of_update {j : Nat} {a : α} (h : f (Function.update deeds i deed j) = some a) :
    (j = i ∧ f deed = some a) ∨ (j ≠ i ∧ f (deeds j) = some a) := by
  by_cases eq : j = i
  · subst eq
    rw [Function.update_self] at h
    exact .inl ⟨rfl, h⟩
  · rw [Function.update_of_ne eq] at h
    exact .inr ⟨eq, h⟩

theorem update_same (same : f deed = f (deeds i)) (j : Nat) :
    f (Function.update deeds i deed j) = f (deeds j) := by
  by_cases eq : j = i
  · subst eq
    rw [Function.update_self, same]
  · rw [Function.update_of_ne eq]

end Deed

/-- How the ledger stands to what the calls have done. -/
structure Standing (errands : List Errand) (deeds : Nat → Deed) (l : Ledger) : Prop where
  numbered : l.Numbered
  /-- A loan was made borrowed, for the user and the book that a call to borrow names. -/
  maker : ∀ (i : Nat) (loan : Loan), (deeds i).made? = some loan → loan.isBorrowed = true ∧
    ∃ c, errands[i]? = some (.borrow c) ∧ c.payload.userId = some loan.userId ∧
      c.payload.bookId = some loan.bookId
  /-- A loan that was settled is there as it was settled, and a call to return names it. -/
  settler : ∀ (i : Nat) (loan : Loan), (deeds i).settled? = some loan →
    l.find? loan.id = some loan ∧ loan.isBorrowed = false ∧
      ∃ c, errands[i]? = some (.giveBack c) ∧ c.payload.loanId = some loan.id
  /-- A loan that was made is there as it was made, or a call has settled it. -/
  kept : ∀ (i : Nat) (loan : Loan), (deeds i).made? = some loan →
    l.find? loan.id = some loan ∨ ∃ k at_, (deeds k).settled? = some (loan.settled at_)
  oneMaker : ∀ (i j : Nat) (a b : Loan), (deeds i).made? = some a → (deeds j).made? = some b →
    a.id = b.id → i = j
  oneSettler : ∀ (i j : Nat) (a b : Loan), (deeds i).settled? = some a →
    (deeds j).settled? = some b → a.id = b.id → i = j
  /-- Before a younger loan of one book to one user, the older was settled. -/
  succession : ∀ (i j : Nat) (a b : Loan), (deeds i).made? = some a → (deeds j).made? = some b →
    a.userId = b.userId → a.bookId = b.bookId → a.id.value < b.id.value →
      ∃ k at_, (deeds k).settled? = some (a.settled at_)

namespace Standing

variable {errands : List Errand} {deeds deeds' : Nat → Deed} {l : Ledger}

theorem start (numbered : l.Numbered) : Standing errands (fun _ => .nothing none) l where
  numbered := numbered
  maker := by
    intro i loan made
    cases made
  settler := by
    intro i loan settled
    cases settled
  kept := by
    intro i loan made
    cases made
  oneMaker := by
    intro i j a b made
    cases made
  oneSettler := by
    intro i j a b settled
    cases settled
  succession := by
    intro i j a b made
    cases made

/-- A loan that was made is in the ledger, at most settled since. -/
theorem find?_of_made (s : Standing errands deeds l) {i : Nat} {loan : Loan}
    (made : (deeds i).made? = some loan) :
    ∃ stored, l.find? loan.id = some stored ∧
      (stored = loan ∨ ∃ k at_, (deeds k).settled? = some stored ∧ stored = loan.settled at_) := by
  rcases s.kept i loan made with there | ⟨k, at_, settled⟩
  · exact ⟨loan, there, .inl rfl⟩
  · exact ⟨_, (s.settler k _ settled).1, .inr ⟨k, at_, settled, rfl⟩⟩

/-- Only what was made and settled matters. -/
theorem congr (s : Standing errands deeds l) (made : ∀ i, (deeds' i).made? = (deeds i).made?)
    (settled : ∀ i, (deeds' i).settled? = (deeds i).settled?) : Standing errands deeds' l where
  numbered := s.numbered
  maker := by
    simp only [made]
    exact s.maker
  settler := by
    simp only [settled]
    exact s.settler
  kept := by
    simp only [made, settled]
    exact s.kept
  oneMaker := by
    simp only [made]
    exact s.oneMaker
  oneSettler := by
    simp only [settled]
    exact s.oneSettler
  succession := by
    simp only [made, settled]
    exact s.succession

/-- A call goes on and has made and settled what it had before. -/
theorem update_same (s : Standing errands deeds l) {i : Nat} {deed : Deed}
    (made : deed.made? = (deeds i).made?) (settled : deed.settled? = (deeds i).settled?) :
    Standing errands (Function.update deeds i deed) l :=
  s.congr (Deed.update_same made) (Deed.update_same settled)

/-- A call makes a loan, and none is active for its user and its book. -/
theorem make (s : Standing errands deeds l) {i : Nat} {r : Option Instant} {c : Command}
    {draft : LoanDraft} (idle : deeds i = .nothing r) (call : errands[i]? = some (.borrow c))
    (named : c.payload.userId = some draft.userId) (wanted : c.payload.bookId = some draft.bookId)
    (free : l.hasActive draft.userId draft.bookId = false) :
    Standing errands (Function.update deeds i (.opened (l.create draft).1)) (l.create draft).2 := by
  have settled : ∀ j, (Function.update deeds i (.opened (l.create draft).1) j).settled? =
      (deeds j).settled? := Deed.update_same (by rw [idle]; rfl)
  -- An older loan has a lower number, and is where it was.
  have older : ∀ {id loan}, l.find? id = some loan →
      (l.create draft).2.find? id = some loan := by
    intro id loan there
    rw [Ledger.find?_create, if_neg (s.numbered.ne_next_of_find? there)]
    exact there
  have below : ∀ {j a}, (deeds j).made? = some a → a.id.value < (l.create draft).1.id.value := by
    intro j a made
    obtain ⟨stored, there, -⟩ := s.find?_of_made made
    have own := (Ledger.find?_eq_some_iff.mp there).2
    exact own ▸ s.numbered.lt_of_find? there
  constructor
  case numbered => exact s.numbered.create draft
  case maker =>
    intro j a made
    rcases Deed.of_update made with ⟨rfl, new⟩ | ⟨-, made⟩
    · cases new
      exact ⟨rfl, c, call, named, wanted⟩
    · exact s.maker j a made
  case settler =>
    intro j a was
    rw [settled] at was
    obtain ⟨there, rest⟩ := s.settler j a was
    exact ⟨older there, rest⟩
  case kept =>
    intro j a made
    simp only [settled]
    rcases Deed.of_update made with ⟨rfl, new⟩ | ⟨-, made⟩
    · cases new
      rw [Ledger.find?_create]
      exact .inl (if_pos rfl)
    · exact (s.kept j a made).imp_left older
  case oneMaker =>
    intro j k a b made_a made_b same
    rcases Deed.of_update made_a with ⟨rfl, new⟩ | ⟨-, old_a⟩ <;>
      rcases Deed.of_update made_b with ⟨rfl, new'⟩ | ⟨-, old_b⟩
    · rfl
    · cases new
      have := below old_b
      rw [← same] at this
      omega
    · cases new'
      have := below old_a
      rw [same] at this
      omega
    · exact s.oneMaker j k a b old_a old_b same
  case oneSettler =>
    intro j k a b was_a was_b
    rw [settled] at was_a was_b
    exact s.oneSettler j k a b was_a was_b
  case succession =>
    intro j k a b made_a made_b user book lt
    simp only [settled]
    rcases Deed.of_update made_a with ⟨rfl, new⟩ | ⟨-, old_a⟩ <;>
      rcases Deed.of_update made_b with ⟨rfl, new'⟩ | ⟨-, old_b⟩
    · rw [Option.some.inj (new.symm.trans new')] at lt
      omega
    · -- Nothing is younger than the new loan.
      cases new
      have := below old_b
      omega
    · -- The older loan is of this book to this user, so it is not borrowed any more.
      cases new'
      rcases s.kept j a old_a with there | gone
      · have mem := (Ledger.find?_eq_some_iff.mp there).1
        have past := Ledger.not_borrowed_of_hasActive free mem user book
        rw [(s.maker j a old_a).1] at past
        cases past
      · exact gone
    · exact s.succession j k a b old_a old_b user book lt

/-- A call settles a borrowed loan. -/
theorem settle (s : Standing errands deeds l) {i : Nat} {r : Option Instant} {c : Command}
    {loan : Loan} (idle : deeds i = .nothing r) (call : errands[i]? = some (.giveBack c))
    (named : c.payload.loanId = some loan.id) (there : l.find? loan.id = some loan)
    (borrowed : loan.isBorrowed = true) (at_ : Instant) :
    Standing errands (Function.update deeds i (.settled (loan.settled at_))) (l.settle loan at_) := by
  have made : ∀ j, (Function.update deeds i (.settled (loan.settled at_)) j).made? =
      (deeds j).made? := Deed.update_same (by rw [idle]; rfl)
  have still : ∀ {j a}, (deeds j).settled? = some a →
      (Function.update deeds i (.settled (loan.settled at_)) j).settled? = some a := by
    intro j a was
    have ne : j ≠ i := by
      rintro rfl
      rw [idle] at was
      cases was
    rw [Function.update_of_ne ne]
    exact was
  have mine : (Function.update deeds i (.settled (loan.settled at_)) i).settled? =
      some (loan.settled at_) := by
    rw [Function.update_self]
    rfl
  -- What was settled before is another loan, for this one was borrowed still.
  have other : ∀ {j a}, (deeds j).settled? = some a → a.id ≠ loan.id := by
    intro j a was same
    obtain ⟨found, past, -⟩ := s.settler j a was
    rw [same, there] at found
    cases found
    rw [borrowed] at past
    cases past
  constructor
  case numbered => exact s.numbered.settle (Ledger.find?_eq_some_iff.mp there).1 at_
  case maker =>
    intro j a was
    rw [made] at was
    exact s.maker j a was
  case settler =>
    intro j a was
    rcases Deed.of_update was with ⟨rfl, new⟩ | ⟨-, was⟩
    · cases new
      rw [Ledger.find?_settle]
      exact ⟨if_pos rfl, rfl, c, call, named⟩
    · obtain ⟨found, rest⟩ := s.settler j a was
      rw [Ledger.find?_settle, if_neg (other was)]
      exact ⟨found, rest⟩
  case kept =>
    intro j a was
    rw [made] at was
    rcases s.kept j a was with found | ⟨k, back, gone⟩
    · by_cases same : a.id = loan.id
      · rw [same, there] at found
        cases found
        exact .inr ⟨i, at_, mine⟩
      · rw [Ledger.find?_settle, if_neg same]
        exact .inl found
    · exact .inr ⟨k, back, still gone⟩
  case oneMaker =>
    intro j k a b made_a made_b
    rw [made] at made_a made_b
    exact s.oneMaker j k a b made_a made_b
  case oneSettler =>
    intro j k a b was_a was_b same
    rcases Deed.of_update was_a with ⟨rfl, new⟩ | ⟨-, old_a⟩ <;>
      rcases Deed.of_update was_b with ⟨rfl, new'⟩ | ⟨-, old_b⟩
    · rfl
    · cases new
      exact absurd same.symm (other old_b)
    · cases new'
      exact absurd same (other old_a)
    · exact s.oneSettler j k a b old_a old_b same
  case succession =>
    intro j k a b made_a made_b user book lt
    rw [made] at made_a made_b
    obtain ⟨m, back, gone⟩ := s.succession j k a b made_a made_b user book lt
    exact ⟨m, back, still gone⟩

theorem step {may : Faults → Prop} {drops : Prop} {s s' : Shift}
    (h : Shift.Step may drops errands s s') (before : Standing errands s.deeds s.stores.ledger) :
    Standing errands s'.deeds s'.stores.ledger := by
  cases h with
  | @advance i e deed st mine named advance =>
    show Standing errands (Function.update s.deeds i deed) st.ledger
    generalize deed_eq : s.deeds i = old at advance
    generalize s.stores = st₀ at advance before
    cases advance with
    | stay => exact before.update_same (by rw [deed_eq]) (by rw [deed_eq])
    | read now => exact before.update_same (by rw [deed_eq]; rfl) (by rw [deed_eq]; rfl)
    | take there copies => exact before.update_same (by rw [deed_eq]; rfl) (by rw [deed_eq]; rfl)
    | restock there room => exact before.update_same (by rw [deed_eq]; rfl) (by rw [deed_eq]; rfl)
    | lend call user book there copies free drafted =>
      subst call
      have owner := LoanDraft.userId_of_open? drafted
      have subject := LoanDraft.bookId_of_open? drafted
      exact before.make deed_eq named (owner ▸ user) (subject ▸ book) (owner ▸ subject ▸ free)
    | settle call loan there owner borrowed =>
      subst call
      have own := (Ledger.find?_eq_some_iff.mp there).2
      exact before.settle deed_eq named (own ▸ loan) (own ▸ there) borrowed _
  | @glance i r now idle => exact before.update_same (by rw [idle]; rfl) (by rw [idle]; rfl)
  | _ => exact before

end Standing

/-- Whatever the schedule, the ledger stands to what the calls have done. -/
theorem standing_of_run {emit : EventSink} (sink : ∀ ev, (emit ev).Public) (errands : List Errand)
    {d : Desk} (numbered : d.ledger.Numbered) {schedule : List (Pool.Move Desk)}
    (any : ∀ m ∈ schedule, Permitted (fun _ => True) True m) :
    Standing errands (Deed.inHistory ((pool emit errands d).history Desk.answer schedule))
      ((pool emit errands d).run Desk.answer schedule).world.ledger := by
  have reached := reaches_run sink (fun _ _ => trivial) errands (d := d) trivial any
  have begun : Standing errands (Shift.start d.stores).deeds d.ledger := .start numbered
  exact reached.keep (P := fun s => Standing errands s.deeds s.stores.ledger) Standing.step begun

end Lending

end Circulation
