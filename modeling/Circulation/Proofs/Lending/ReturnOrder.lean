/- # Circulation.Proofs.Lending.ReturnOrder -- returns in any order

While nothing fails and the clock stands still, what a call to return does to the stores is a function
of the stores (`Stores.takeBack`, `Errand.giveBack_calm`). Two such calls may be made in either order. If
they are about one loan, the first of them settles it and the second finds nothing to do, and the clock
shows the same to both; if they are about two, they write different records of loans, and putting copies
back does not look at which came first even if the book is the same (`Stores.takeBack_comm`). So a list of
returns may be carried out in any order (`returns_in_any_order`).
-/
import Circulation.Proofs.Lending.Checks

namespace Circulation

open Time (Instant)

/-! ## Copies put back -/

/-- The book with one copy more on the shelf, unless all its copies are there. -/
def Book.restocked (b : Book) : Book :=
  if b.availableCopies < b.totalCopies then b.withCopies (b.availableCopies + 1) else b

namespace Shelf

/-- One copy more of a book, if the book is there and has room for it. -/
def putBack (s : Shelf) (book : BookId) : Shelf :=
  match s.find? book with
  | none => s
  | some found =>
    if found.availableCopies < found.totalCopies then
      s.put (found.withCopies (found.availableCopies + 1))
    else s

theorem find?_putBack (s : Shelf) (book id : BookId) :
    (s.putBack book).find? id =
      if id = book then (s.find? book).map Book.restocked else s.find? id := by
  by_cases same : id = book
  · subst same
    rw [if_pos rfl]
    unfold putBack
    cases there : s.find? id with
    | none => exact there
    | some found =>
      show find? (if _ then _ else _) id = some found.restocked
      unfold Book.restocked
      split
      · rw [find?_put, Book.withCopies_id, if_pos (id_of_find? there)]
      · exact there
  · rw [if_neg same]
    unfold putBack
    cases there : s.find? book with
    | none => rfl
    | some found =>
      have other : found.id ≠ id := fun eq => same (eq ▸ id_of_find? there)
      show find? (if _ then _ else _) id = _
      split
      · rw [find?_put, Book.withCopies_id, if_neg other]
      · rfl

/-- It does not matter which of two copies is put back first. -/
theorem putBack_comm (s : Shelf) (book other : BookId) :
    (s.putBack book).putBack other = (s.putBack other).putBack book := by
  by_cases same : book = other
  · rw [same]
  · apply ext_find?
    intro id
    simp only [find?_putBack, same, Ne.symm same, if_false]
    by_cases first : id = book
    · subst first
      rw [if_neg same, if_pos rfl, if_pos rfl]
    · rw [if_neg first, if_neg first]

end Shelf

/-! ## Loans that are due to a command -/

/-- The loan that a command to return would settle: a borrowed one, and the user's own if the command
names a user. -/
def Command.due? (c : Command) (l : Ledger) : Option Loan :=
  (c.payload.loanId.bind l.find?).filter fun loan =>
    loan.isBorrowed && c.payload.userId.all fun user => user == loan.userId

namespace Command

theorem of_due? {c : Command} {l : Ledger} {loan : Loan} (h : c.due? l = some loan) :
    c.payload.loanId = some loan.id ∧ l.find? loan.id = some loan := by
  obtain ⟨found, -⟩ := Option.filter_eq_some_iff.mp h
  obtain ⟨id, named, there⟩ := Option.bind_eq_some_iff.mp found
  obtain rfl := (Ledger.find?_eq_some_iff.mp there).2
  exact ⟨named, there⟩

/-- When a loan was settled, it is due to no command, and what is due to those about other loans is the
same as before. -/
theorem due?_settle (c : Command) (l : Ledger) (loan : Loan) (at_ : Instant) :
    c.due? (l.settle loan at_) = if c.payload.loanId = some loan.id then none else c.due? l := by
  unfold due?
  cases c.payload.loanId with
  | none => simp
  | some id =>
    simp only [Option.bind_some, Ledger.find?_settle, Option.some.injEq]
    by_cases same : id = loan.id
    · simp [same, Loan.settled, Loan.isBorrowed]
    · simp [same]

end Command

/-! ## Two returns -/

namespace Stores

/-- The stores after a return at that instant. -/
def takeBack (st : Stores) (now : Instant) (c : Command) : Stores :=
  match c.due? st.ledger with
  | none => st
  | some loan => ⟨st.shelf.putBack loan.bookId, st.ledger.settle loan now⟩

variable {st : Stores} {now : Instant} {c : Command}

theorem takeBack_of_idle (idle : c.due? st.ledger = none) : st.takeBack now c = st := by
  rw [takeBack, idle]

theorem takeBack_of_due {loan : Loan} (due : c.due? st.ledger = some loan) :
    st.takeBack now c = ⟨st.shelf.putBack loan.bookId, st.ledger.settle loan now⟩ := by
  rw [takeBack, due]

/-- Two returns that both settle a loan. -/
theorem takeBack_takeBack {other : Command} {loan loan' : Loan} (due : c.due? st.ledger = some loan)
    (due' : other.due? (st.ledger.settle loan now) = some loan') :
    (st.takeBack now c).takeBack now other =
      ⟨(st.shelf.putBack loan.bookId).putBack loan'.bookId,
        (st.ledger.settle loan now).settle loan' now⟩ := by
  rw [takeBack_of_due due]
  exact takeBack_of_due due'

/-- Two returns at one instant may be made in either order. -/
theorem takeBack_comm (st : Stores) (now : Instant) (c other : Command) :
    (st.takeBack now c).takeBack now other = (st.takeBack now other).takeBack now c := by
  -- A return that has nothing to do is still idle after the other one.
  have past : ∀ {c other : Command}, c.due? st.ledger = none →
      (st.takeBack now c).takeBack now other = (st.takeBack now other).takeBack now c := by
    intro c other idle
    rw [takeBack_of_idle idle]
    cases due : other.due? st.ledger with
    | none => rw [takeBack_of_idle due, takeBack_of_idle idle]
    | some loan =>
      rw [takeBack_of_due due, takeBack_of_idle]
      simp [Command.due?_settle, idle]
  cases due : c.due? st.ledger with
  | none => exact past due
  | some loan =>
    cases due' : other.due? st.ledger with
    | none => exact (past due').symm
    | some loan' =>
      obtain ⟨named, there⟩ := Command.of_due? due
      obtain ⟨named', there'⟩ := Command.of_due? due'
      by_cases same : loan.id = loan'.id
      · -- Both are about one loan: the second finds it settled.
        obtain rfl : loan = loan' := Option.some.inj (there.symm.trans (same ▸ there'))
        rw [takeBack_of_due due, takeBack_of_due due', takeBack_of_idle, takeBack_of_idle]
        · simp [Command.due?_settle, named]
        · simp [Command.due?_settle, named']
      · have still : other.due? (st.ledger.settle loan now) = some loan' := by
          simp [Command.due?_settle, named', Ne.symm same, due']
        have still' : c.due? (st.ledger.settle loan' now) = some loan := by
          simp [Command.due?_settle, named, same, due]
        rw [takeBack_takeBack due still, takeBack_takeBack due' still', Shelf.putBack_comm,
          Ledger.settle_comm st.ledger same]

end Stores

/-! ## A call to return -/

/-- Nothing fails, and the clock stands still at that instant. -/
structure Timed.Calm (t : Timed) (now : Instant) : Prop where
  faults : t.desk.faults = Faults.none
  clock : ∀ n, t.readings n = now

/-- The timed desk is calm, with these stores. -/
structure Timed.Rests (t : Timed) (now : Instant) (st : Stores) : Prop extends t.Calm now where
  stores : t.desk.stores = st

namespace Lending

theorem outcome_restock_of_calm (book : BookId) {t : Timed} (calm : t.desk.faults = Faults.none) :
    ∃ remaining, ∀ k : Except Failure (Option Int) → Procedure Verdict,
      outcome ((restock book).run.andThen k) t =
        outcome (k (.ok remaining)) (t.setShelf (t.desk.shelf.putBack book)) := by
  have reads : t.desk.faults.failReads = false := by rw [calm]; rfl
  have updates : t.desk.faults.failUpdates = false := by rw [calm]; rfl
  simp only [restock, Attempt.run_bind_andThen, outcome_findBook reads]
  unfold Shelf.putBack
  cases there : t.desk.shelf.find? book with
  | none => exact ⟨none, fun k => rfl⟩
  | some found =>
    by_cases room : found.availableCopies < found.totalCopies
    · simp only [Book.restockCopy_of_lt room, if_pos room, Attempt.run_bind_andThen]
      have kept : t.desk.shelf.find? (found.withCopies (found.availableCopies + 1)).id = some found := by
        rw [Book.withCopies_id, Shelf.id_of_find? there, there]
      exact ⟨_, fun k => outcome_saveBook kept updates _⟩
    · have full : found.totalCopies ≤ found.availableCopies := by omega
      simp only [Book.restockCopy_of_le full, if_neg room, Attempt.run_bind_andThen]
      exact ⟨_, fun k => rfl⟩

theorem checkOwner_of_all (id : LoanId) {loan : Loan} {user : Option UserId}
    (owner : user.all (· == loan.userId) = true) : checkOwner id loan user = pure () := by
  cases user with
  | none => rfl
  | some user => exact if_pos (by simpa using owner)

theorem exists_checkOwner_eq_throw (id : LoanId) {loan : Loan} {user : Option UserId}
    (other : ¬user.all (· == loan.userId) = true) : ∃ f, checkOwner id loan user = throw f := by
  cases user with
  | none => exact absurd rfl other
  | some user => exact ⟨_, if_neg (by simpa using other)⟩

theorem settle_of_calm {c : Command} {id : LoanId} (named : c.payload.loanId = some id) {t : Timed}
    {now : Instant} (calm : t.Calm now) :
    (outcome ((settle id c.payload.userId).run.andThen fun x => .done (.ofSettle x)) t).2.Rests now
      (t.desk.stores.takeBack now c) := by
  simp only [settle, Attempt.run_bind_andThen, Attempt.run_need_andThen, outcome_findLoan]
  have stays : c.due? t.desk.ledger = none → t.Rests now (t.desk.stores.takeBack now c) :=
    fun idle => ⟨calm, (Stores.takeBack_of_idle idle).symm⟩
  cases there : t.desk.ledger.find? id with
  | none => exact stays (by simp [Command.due?, named, there])
  | some loan =>
    obtain rfl : loan.id = id := (Ledger.find?_eq_some_iff.mp there).2
    have due : c.due? t.desk.ledger =
        (some loan).filter fun loan => loan.isBorrowed && c.payload.userId.all (· == loan.userId) := by
      simp only [Command.due?, named, Option.bind_some, there]
    by_cases owner : c.payload.userId.all (· == loan.userId) = true
    · dsimp only
      rw [checkOwner_of_all loan.id owner]
      cases borrowed : loan.isBorrowed with
      | false => exact stays (by simp [due, borrowed])
      | true =>
        have due : c.due? t.desk.stores.ledger = some loan := due.trans (by simp [borrowed, owner])
        rw [Stores.takeBack_of_due due]
        -- The clock is read, the loan is settled, and the copy is put back.
        simp only [outcome_pure, if_true, Attempt.run_bind_andThen, outcome_readClock]
        rw [outcome_markReturned (t := ⟨t.desk, fun n => t.readings (n + 1)⟩) there borrowed]
        have kept : t.desk.faults.loseNextReturn = false := by rw [calm.faults]; rfl
        simp only [kept, Bool.not_false, if_true, Attempt.run_bind_andThen]
        obtain ⟨remaining, restocked⟩ := outcome_restock_of_calm loan.bookId
          (t := Timed.settle ⟨t.desk, fun n => t.readings (n + 1)⟩ loan (t.readings 0))
          (by simp [Timed.settle, calm.faults, Faults.none])
        rw [restocked, calm.clock 0]
        refine ⟨⟨?_, fun n => calm.clock (n + 1)⟩, rfl⟩
        show { t.desk.faults with loseNextReturn := false } = Faults.none
        rw [calm.faults]
        rfl
    · obtain ⟨f, refused⟩ := exists_checkOwner_eq_throw loan.id owner
      dsimp only
      rw [refused]
      exact stays (by simp [due, owner])

/-- What is done after the gate is left reads the clock and writes no store. -/
theorem Rests.leave {now : Instant} {st : Stores} {p : Procedure Verdict} {t : Timed}
    (h : (outcome p t).2.Rests now st) :
    ((Errand.behindGate recordingSink p).run Timed.answer t).2.Rests now st := by
  have rests : (p.run Timed.answer t).2.Rests now st := h
  rw [Errand.behindGate, Procedure.run_andThen]
  cases (p.run Timed.answer t).1 with
  | failed | settledBefore => exact rests
  | lent | returned =>
    exact ⟨⟨rests.faults, fun n => rests.clock (n + 1)⟩, rests.stores⟩

/-- While nothing fails and the clock stands still, this is what a call to return does to the stores. -/
theorem Errand.giveBack_of_calm (c : Command) {t : Timed} {now : Instant} (calm : t.Calm now) :
    ((Errand.giveBack c).callAt t).2.Rests now (t.desk.stores.takeBack now c) := by
  rw [callAt, procedure_eq]
  simp only [section?]
  cases named : c.payload.loanId with
  | none =>
    have idle : c.due? t.desk.stores.ledger = none := by simp [Command.due?, named]
    rw [Stores.takeBack_of_idle idle]
    exact ⟨calm, rfl⟩
  | some id => exact Rests.leave (settle_of_calm named calm)

/-! ## Lists of returns -/

/-- The timed desk after returns, one after the other. -/
def returned (cs : List Command) (t : Timed) : Timed :=
  cs.foldl (fun t c => ((Errand.giveBack c).callAt t).2) t

theorem returned_of_calm (cs : List Command) {t : Timed} {now : Instant} (calm : t.Calm now) :
    (returned cs t).Rests now (cs.foldl (·.takeBack now ·) t.desk.stores) := by
  induction cs generalizing t with
  | nil => exact ⟨calm, rfl⟩
  | cons c cs ih =>
    have first := Errand.giveBack_of_calm c calm
    have rest := ih first.toCalm
    rw [first.stores] at rest
    exact rest

/-- Whatever the books, the loans and the commands: while nothing fails and the clock stands still, a
list of returns leaves the same books and the same loans in whatever order it is carried out. -/
theorem returns_in_any_order (t : Timed) (calm : t.desk.faults = Faults.none)
    (still : ∀ n, t.readings n = t.readings 0) {cs cs' : List Command} (perm : cs.Perm cs') :
    (returned cs t).desk.shelf = (returned cs' t).desk.shelf ∧
      (returned cs t).desk.ledger = (returned cs' t).desk.ledger := by
  have folds : cs.foldl (·.takeBack (t.readings 0) ·) t.desk.stores =
      cs'.foldl (·.takeBack (t.readings 0) ·) t.desk.stores :=
    perm.foldl_eq' (fun c _ other _ st => st.takeBack_comm (t.readings 0) c other) t.desk.stores
  have here := (returned_of_calm cs ⟨calm, still⟩).stores
  have there := (returned_of_calm cs' ⟨calm, still⟩).stores
  have same : (returned cs t).desk.stores = (returned cs' t).desk.stores := by rw [here, folds, there]
  exact ⟨congrArg Stores.shelf same, congrArg Stores.ledger same⟩

/-- A desk in a leap second, with two loans of a book of which one copy is missing. -/
def twoOut : Timed where
  desk :=
    { shelf := Register.empty.put ⟨⟨1⟩, "Emma", 2, 1⟩
      ledger := (Ledger.empty.insert ⟨⟨4⟩, ⟨7⟩, ⟨1⟩, .epoch, .epoch, none, .borrowed⟩).insert
        ⟨⟨5⟩, ⟨8⟩, ⟨1⟩, .epoch, .epoch, none, .borrowed⟩
      faults := .none
      clock := ⟨0, 0⟩
      events := [] }
  readings := fun _ => ⟨1230767999, 1500000000, by decide, by decide⟩

/-- To return a loan, in the name of a user or of nobody. -/
def returnOf (loan : LoanId) (user : Option UserId) : Command :=
  ⟨.giveBack, "r-1", none, ⟨user, none, none, some loan⟩⟩

/-- Two returns of one loan, one of them in a wrong name, and one of the other loan. -/
theorem returns_in_any_order_twoOut :
    let one := returnOf ⟨4⟩ none
    let wrong := returnOf ⟨4⟩ (some ⟨8⟩)
    let other := returnOf ⟨5⟩ (some ⟨8⟩)
    (returned [one, wrong, other] twoOut).desk.shelf = (returned [wrong, other, one] twoOut).desk.shelf ∧
      (returned [one, wrong, other] twoOut).desk.ledger =
        (returned [wrong, other, one] twoOut).desk.ledger := by
  intro one wrong other
  have perm : ([one] ++ [wrong, other]).Perm ([wrong, other] ++ [one]) := List.perm_append_comm
  exact returns_in_any_order twoOut rfl (fun _ => rfl) perm

end Lending

end Circulation
