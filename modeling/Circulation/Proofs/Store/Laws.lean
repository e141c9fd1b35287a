/- # Circulation.Proofs.Store.Laws -- what the stores in memory hold after a write

Membership, look-up and counting in a register after a record was put, and from them the same for
books on the shelf and loans in the ledger. A ledger is numbered if the next number is above every
number in use; a ledger that starts empty stays so, and then a new loan never replaces an old one.
-/
import Circulation.Store.Ledger
import Circulation.Store.Shelf

namespace Circulation

open Time (Instant)

/-! ## Registers -/

theorem mem_placeByKey_iff {α : Type} {key : α → Int} {a x : α} {entries : List α}
    (sorted : entries.Pairwise fun x y => key x < key y) :
    x ∈ placeByKey key a entries ↔ x = a ∨ (x ∈ entries ∧ key x ≠ key a) := by
  induction entries with
  | nil => simp [placeByKey]
  | cons b rest ih =>
    obtain ⟨above, later⟩ := List.pairwise_cons.mp sorted
    -- The list ascends: what comes after `b` is above `b`.
    have beyond : ∀ y ∈ rest, key a ≤ key b → key y ≠ key a := by
      intro y mem le eq
      have := above y mem
      omega
    unfold placeByKey
    split
    · rename_i lt
      have old : ∀ y ∈ b :: rest, key y ≠ key a := by
        intro y mem
        rcases List.mem_cons.mp mem with rfl | mem
        · exact fun eq => absurd lt (by omega)
        · exact beyond y mem (Int.le_of_lt lt)
      rw [List.mem_cons]
      exact or_congr Iff.rfl ⟨fun mem => ⟨mem, old x mem⟩, And.left⟩
    · split
      · rename_i eq
        have old : ∀ y ∈ rest, key y ≠ key a := fun y mem => beyond y mem (Int.le_of_eq eq)
        rw [List.mem_cons, List.mem_cons]
        constructor
        · rintro (new | mem)
          · exact .inl new
          · exact .inr ⟨.inr mem, old x mem⟩
        · rintro (new | ⟨rfl | mem, ne⟩)
          · exact .inl new
          · exact absurd eq.symm ne
          · exact .inr mem
      · rename_i ge ne
        have kept : key b ≠ key a := fun eq => ne eq.symm
        rw [List.mem_cons, ih later, List.mem_cons]
        constructor
        · rintro (rfl | new | ⟨mem, ne⟩)
          · exact .inr ⟨.inl rfl, kept⟩
          · exact .inl new
          · exact .inr ⟨.inr mem, ne⟩
        · rintro (new | ⟨rfl | mem, ne⟩)
          · exact .inr (.inl new)
          · exact .inl rfl
          · exact .inr (.inr ⟨mem, ne⟩)

/-- Putting a record changes a count by that record and by the record that gives way. -/
theorem countP_placeByKey {α : Type} {key : α → Int} (p : α → Bool) (a : α) {entries : List α}
    (sorted : entries.Pairwise fun x y => key x < key y) :
    (placeByKey key a entries).countP p +
        ((entries.find? fun x => key x == key a).toList.countP p) =
      entries.countP p + [a].countP p := by
  induction entries with
  | nil => simp [placeByKey]
  | cons b rest ih =>
    obtain ⟨above, later⟩ := List.pairwise_cons.mp sorted
    unfold placeByKey
    split
    · -- Everything is above the new record, so nothing gives way to it.
      rename_i lt
      have none_found : (b :: rest).find? (fun x => key x == key a) = none := by
        rw [List.find?_eq_none]
        intro y mem
        have : key a < key y := by
          rcases List.mem_cons.mp mem with rfl | mem
          · exact lt
          · exact Int.lt_trans lt (above y mem)
        simp only [beq_iff_eq]
        omega
      rw [none_found, List.countP_cons (a := a), List.countP_singleton]
      simp only [Option.toList_none, List.countP_nil]
      omega
    · split
      · rename_i eq
        have found : (b :: rest).find? (fun x => key x == key a) = some b :=
          List.find?_cons_of_pos (by simp [eq])
        simp only [found, Option.toList_some, List.countP_cons, List.countP_nil]
        omega
      · rename_i ge ne
        have past : (b :: rest).find? (fun x => key x == key a) =
            rest.find? fun x => key x == key a :=
          List.find?_cons_of_neg (by simpa using fun eq => ne eq.symm)
        have later_count := ih later
        rw [past, List.countP_cons, List.countP_cons]
        omega

/-- What the new record and the one that gives way have in common stays where it is. -/
theorem map_placeByKey {α β : Type} {key : α → Int} {f : α → β} {a old : α} {entries : List α}
    (sorted : entries.Pairwise fun x y => key x < key y) (there : old ∈ entries)
    (same_key : key old = key a) (same : f old = f a) :
    (placeByKey key a entries).map f = entries.map f := by
  induction entries with
  | nil => exact absurd there List.not_mem_nil
  | cons b rest ih =>
    obtain ⟨above, later⟩ := List.pairwise_cons.mp sorted
    unfold placeByKey
    rcases List.mem_cons.mp there with rfl | there
    · rw [if_neg (by omega), if_pos same_key.symm, List.map_cons, List.map_cons, same]
    · have beyond := above old there
      rw [if_neg (by omega), if_neg (by omega), List.map_cons, List.map_cons, ih later there]

/-- A record that gives way does so in its place. -/
theorem placeByKey_eq_map {α : Type} {key : α → Int} {a old : α} {entries : List α}
    (sorted : entries.Pairwise fun x y => key x < key y) (there : old ∈ entries)
    (same_key : key old = key a) :
    placeByKey key a entries = entries.map fun b => if key b = key a then a else b := by
  induction entries with
  | nil => exact absurd there List.not_mem_nil
  | cons b rest ih =>
    obtain ⟨above, later⟩ := List.pairwise_cons.mp sorted
    unfold placeByKey
    rcases List.mem_cons.mp there with rfl | there
    · have others : rest.map (fun b => if key b = key a then a else b) = rest.map id := by
        apply List.map_congr_left
        intro x mem
        have := above x mem
        exact if_neg (by omega)
      rw [if_neg (by omega), if_pos same_key.symm, List.map_cons, if_pos same_key, others, List.map_id]
    · have beyond := above old there
      rw [if_neg (by omega), if_neg (by omega), List.map_cons, if_neg (by omega), ih later there]

namespace Register

variable {α : Type} {key : α → Int}

theorem mem_put {r : Register α key} {a x : α} :
    x ∈ (r.put a).toList ↔ x = a ∨ (x ∈ r.toList ∧ key x ≠ key a) :=
  mem_placeByKey_iff r.ascending

/-- Records of one key are one record. -/
theorem eq_of_key {r : Register α key} {a b : α} (ha : a ∈ r.toList) (hb : b ∈ r.toList)
    (eq : key a = key b) : a = b := by
  -- Of two different records one stands before the other, and its key is less.
  have apart : ∀ x ∈ r.toList, ∀ y ∈ r.toList, key x = key y → x = y := by
    refine List.Pairwise.forall_of_forall_of_flip (R := fun x y => key x = key y → x = y)
      (fun _ _ _ => rfl) ?_ ?_
    · exact r.ascending.imp fun lt eq => absurd lt (by omega)
    · exact r.ascending.imp fun lt eq => absurd lt (by omega)
  exact apart a ha b hb eq

theorem get?_eq_some_iff {r : Register α key} {k : Int} {a : α} :
    r.get? k = some a ↔ a ∈ r.toList ∧ key a = k := by
  constructor
  · exact fun h => ⟨mem_of_get? h, key_of_get? h⟩
  · rintro ⟨mem, rfl⟩
    cases found : r.get? (key a) with
    | none =>
      have := List.find?_eq_none.mp found a mem
      simp at this
    | some b => rw [eq_of_key (mem_of_get? found) mem (key_of_get? found)]

theorem nodup_toList (r : Register α key) : r.toList.Nodup :=
  r.ascending.imp fun lt eq => absurd lt (by rw [eq]; exact Int.lt_irrefl _)

/-- Registers in which every key finds the same record are equal. -/
theorem ext_get? {r r' : Register α key} (same : ∀ k, r.get? k = r'.get? k) : r = r' := by
  have members : ∀ a, a ∈ r.toList ↔ a ∈ r'.toList := by
    intro a
    have found := get?_eq_some_iff (r := r) (k := key a) (a := a)
    have found' := get?_eq_some_iff (r := r') (k := key a) (a := a)
    rw [same] at found
    simpa using found.symm.trans found'
  have equal : r.toList = r'.toList := by
    apply List.Perm.eq_of_pairwise _ r.ascending r'.ascending
    · exact (List.perm_ext_iff_of_nodup r.nodup_toList r'.nodup_toList).mpr members
    · intro a b _ _ lt gt
      exact absurd lt (Int.lt_asymm gt)
  cases r
  cases r'
  cases equal
  rfl

/-- Records of different keys can be put in either order. -/
theorem put_comm (r : Register α key) {a b : α} (ne : key a ≠ key b) :
    (r.put a).put b = (r.put b).put a := by
  apply ext_get?
  intro k
  simp only [get?_put]
  split
  · rename_i eq
    rw [if_neg fun eq' => ne (eq'.trans eq.symm)]
  · rfl

/-- A record under a new key comes to the others. -/
theorem perm_put {r : Register α key} {a : α} (fresh : r.get? (key a) = none) :
    (r.put a).toList.Perm (a :: r.toList) := by
  have absent : ∀ x ∈ r.toList, key x ≠ key a := by
    intro x mem eq
    rw [get?_eq_some_iff.mpr ⟨mem, eq⟩] at fresh
    cases fresh
  apply (List.perm_ext_iff_of_nodup (nodup_toList _) _).mpr
  · intro x
    rw [mem_put, List.mem_cons]
    exact or_congr Iff.rfl (and_iff_left_of_imp (absent x))
  · exact List.nodup_cons.mpr ⟨fun mem => absent a mem rfl, r.nodup_toList⟩

/-- A record under a key in use takes the place of the one that has it. -/
theorem toList_put {r : Register α key} {a old : α} (there : r.get? (key a) = some old) :
    (r.put a).toList = r.toList.map fun b => if key b = key a then a else b := by
  obtain ⟨mem, eq⟩ := get?_eq_some_iff.mp there
  exact placeByKey_eq_map r.ascending mem eq

theorem countP_put (r : Register α key) (a : α) (p : α → Bool) :
    (r.put a).toList.countP p + ((r.get? (key a)).toList.countP p) =
      r.toList.countP p + [a].countP p :=
  countP_placeByKey p a r.ascending

end Register

/-! ## Books -/

namespace Shelf

theorem id_of_find? {s : Shelf} {id : BookId} {b : Book} (h : s.find? id = some b) : b.id = id := by
  have value_eq : b.id.value = id.value :=
    @Register.key_of_get? Book (fun b => b.id.value) s id.value b h
  exact congrArg BookId.mk value_eq

theorem ext_find? {s s' : Shelf} (same : ∀ id, s.find? id = s'.find? id) : s = s' :=
  Register.ext_get? fun k => same ⟨k⟩

theorem find?_put (s : Shelf) (b : Book) (id : BookId) :
    find? (s.put b) id = if b.id = id then some b else s.find? id := by
  have eq_iff : b.id.value = id.value ↔ b.id = id := ⟨congrArg BookId.mk, congrArg BookId.value⟩
  simp only [find?, Register.get?_put, eq_iff]

/-- Writing back a book that is there replaces it. -/
theorem save_of_find? {s : Shelf} {b old : Book} (h : s.find? b.id = some old) :
    s.save b = (true, s.put b) := by
  simp [save, h]

end Shelf

/-! ## Loans -/

namespace Loan

/-- The loan has a copy of the book out. -/
def isOut (l : Loan) (book : BookId) : Bool := decide (l.bookId = book) && l.isBorrowed

theorem isOut_of_borrowed {l : Loan} (h : l.isBorrowed = true) (book : BookId) :
    l.isOut book = decide (l.bookId = book) := by
  simp [isOut, h]

theorem isOut_toLoan (d : LoanDraft) (id : LoanId) (book : BookId) :
    (d.toLoan id).isOut book = decide (d.bookId = book) :=
  isOut_of_borrowed rfl book

theorem isOut_settled (l : Loan) (at_ : Instant) (book : BookId) :
    (l.settled at_).isOut book = false := by
  simp [isOut, isBorrowed, settled]

end Loan

namespace Ledger

/-- The next number is above every number in use. -/
def Numbered (l : Ledger) : Prop := ∀ loan ∈ l.loans.toList, loan.id.value < l.nextId

theorem numbered_empty : empty.Numbered := by
  intro loan mem
  exact absurd mem List.not_mem_nil

theorem Numbered.insert {l : Ledger} (h : l.Numbered) (loan : Loan) : (l.insert loan).Numbered := by
  intro other mem
  show other.id.value < max l.nextId (loan.id.value + 1)
  rcases Register.mem_put.mp mem with rfl | ⟨mem, -⟩
  · omega
  · have := h other mem
    omega

theorem Numbered.create {l : Ledger} (h : l.Numbered) (draft : LoanDraft) :
    (l.create draft).2.Numbered := by
  intro other mem
  show other.id.value < l.nextId + 1
  rcases Register.mem_put.mp mem with rfl | ⟨mem, -⟩
  · show l.nextId < l.nextId + 1
    omega
  · have := h other mem
    omega

/-- The ledger in which a loan is settled. -/
def settle (l : Ledger) (loan : Loan) (at_ : Instant) : Ledger :=
  { l with loans := l.loans.put (loan.settled at_) }

theorem find?_eq_some_iff {l : Ledger} {id : LoanId} {loan : Loan} :
    l.find? id = some loan ↔ loan ∈ l.loans.toList ∧ loan.id = id := by
  have eq_iff : loan.id.value = id.value ↔ loan.id = id :=
    ⟨congrArg LoanId.mk, congrArg LoanId.value⟩
  rw [find?, Register.get?_eq_some_iff, eq_iff]

theorem hasActive_iff (l : Ledger) (user : UserId) (book : BookId) :
    l.hasActive user book = true ↔
      ∃ loan ∈ l.loans.toList, loan.userId = user ∧ loan.bookId = book ∧ loan.status = .borrowed := by
  simp [hasActive, Register.any, Loan.isActiveFor, Loan.isBorrowed, and_assoc]

theorem find?_put (l : Ledger) (loan : Loan) (next : Int) (id : LoanId) :
    (⟨l.loans.put loan, next⟩ : Ledger).find? id = if id = loan.id then some loan else l.find? id := by
  have eq_iff : loan.id.value = id.value ↔ id = loan.id :=
    ⟨fun eq => (congrArg LoanId.mk eq).symm, fun eq => (congrArg LoanId.value eq).symm⟩
  simp only [find?, Register.get?_put, eq_iff]

/-- A borrowed loan is settled in the name of its own user. -/
theorem markReturned_of_find? {l : Ledger} {loan : Loan} (at_ : Instant)
    (found : l.find? loan.id = some loan) (borrowed : loan.isBorrowed = true) :
    l.markReturned loan.id loan.userId at_ = (true, l.settle loan at_) := by
  have status : loan.status = .borrowed := by simpa [Loan.isBorrowed] using borrowed
  simp [markReturned, found, status, settle]

/-- Without a borrowed loan of this user under the number nothing is settled. -/
theorem markReturned_of_not {l : Ledger} {id : LoanId} {user : UserId} (at_ : Instant)
    (none_due : ∀ loan, l.find? id = some loan → ¬(loan.userId = user ∧ loan.status = .borrowed)) :
    l.markReturned id user at_ = (false, l) := by
  unfold markReturned
  cases there : l.find? id with
  | none => rfl
  | some loan => exact if_neg (none_due loan there)

theorem find?_create {l : Ledger} (draft : LoanDraft) (id : LoanId) :
    (l.create draft).2.find? id = if id = ⟨l.nextId⟩ then some (l.create draft).1 else l.find? id :=
  find?_put l (l.create draft).1 (l.nextId + 1) id

theorem find?_settle {l : Ledger} (loan : Loan) (at_ : Instant) (id : LoanId) :
    (l.settle loan at_).find? id = if id = loan.id then some (loan.settled at_) else l.find? id :=
  find?_put l (loan.settled at_) l.nextId id

/-- Different loans can be settled in either order. -/
theorem settle_comm (l : Ledger) {loan other : Loan} (ne : loan.id ≠ other.id) (at_ at' : Instant) :
    (l.settle loan at_).settle other at' = (l.settle other at').settle loan at_ := by
  have apart : (loan.settled at_).id.value ≠ (other.settled at').id.value :=
    fun eq => ne (congrArg LoanId.mk eq)
  unfold settle
  simp only [Register.put_comm l.loans apart]

theorem Numbered.settle {l : Ledger} (h : l.Numbered) {loan : Loan} (mem : loan ∈ l.loans.toList)
    (at_ : Instant) : (l.settle loan at_).Numbered := by
  intro other there
  show other.id.value < l.nextId
  rcases Register.mem_put.mp there with rfl | ⟨there, -⟩
  · exact h loan mem
  · exact h other there

theorem nextId_markReturned (l : Ledger) (id : LoanId) (user : UserId) (at_ : Instant) :
    (l.markReturned id user at_).2.nextId = l.nextId := by
  unfold Ledger.markReturned
  split
  · split <;> rfl
  · rfl

theorem Numbered.markReturned {l : Ledger} (h : l.Numbered) (id : LoanId) (user : UserId)
    (at_ : Instant) : (l.markReturned id user at_).2.Numbered := by
  unfold Ledger.markReturned
  split
  · rename_i loan found
    split
    · exact h.settle (find?_eq_some_iff.mp found).1 at_
    · exact h
  · exact h

/-- What comes of an empty ledger when loans are entered, created and settled. -/
inductive Built : Ledger → Prop
  | empty : Built .empty
  | insert {l : Ledger} (loan : Loan) : Built l → Built (l.insert loan)
  | create {l : Ledger} (draft : LoanDraft) : Built l → Built (l.create draft).2
  | markReturned {l : Ledger} (id : LoanId) (user : UserId) (at_ : Instant) :
      Built l → Built (l.markReturned id user at_).2

/-- Every ledger that can come about is numbered. -/
theorem Built.numbered {l : Ledger} (h : Built l) : l.Numbered := by
  induction h with
  | empty => exact numbered_empty
  | insert loan _ ih => exact ih.insert loan
  | create draft _ ih => exact ih.create draft
  | markReturned id user at_ _ ih => exact ih.markReturned id user at_

/-- Under the next number there is no loan yet. -/
theorem Numbered.find?_next {l : Ledger} (h : l.Numbered) : l.find? ⟨l.nextId⟩ = none := by
  cases found : l.find? ⟨l.nextId⟩ with
  | none => rfl
  | some loan =>
    obtain ⟨mem, eq⟩ := find?_eq_some_iff.mp found
    have := h loan mem
    rw [eq] at this
    exact absurd this (Int.lt_irrefl _)

/-- How many copies of a book are out. -/
def out (l : Ledger) (book : BookId) : Nat := l.loans.toList.countP (·.isOut book)

theorem out_create {l : Ledger} (h : l.Numbered) (draft : LoanDraft) (book : BookId) :
    (l.create draft).2.out book = l.out book + if draft.bookId = book then 1 else 0 := by
  have count := Register.countP_put l.loans (draft.toLoan ⟨l.nextId⟩) (·.isOut book)
  -- No loan gives way to the new one.
  have fresh : l.loans.get? (draft.toLoan ⟨l.nextId⟩).id.value = none := h.find?_next
  simp only [fresh, Option.toList_none, List.countP_nil, List.countP_singleton, Loan.isOut_toLoan,
    decide_eq_true_eq, Nat.add_zero] at count
  exact count

theorem out_settle {l : Ledger} {loan : Loan} (mem : loan ∈ l.loans.toList)
    (borrowed : loan.isBorrowed = true) (at_ : Instant) (book : BookId) :
    (l.settle loan at_).out book + (if loan.bookId = book then 1 else 0) = l.out book := by
  have count := Register.countP_put l.loans (loan.settled at_) (·.isOut book)
  have found : l.loans.get? (loan.settled at_).id.value = some loan :=
    Register.get?_eq_some_iff.mpr ⟨mem, rfl⟩
  simp only [found, Option.toList_some, List.countP_singleton, Loan.isOut_of_borrowed borrowed,
    Loan.isOut_settled, decide_eq_true_eq, Bool.false_eq_true, if_false, Nat.add_zero] at count
  exact count

end Ledger

end Circulation
