/- # Circulation.Proofs.Lending.Course -- what a section does to the stores, call by call

While a call is behind the gate nobody else touches the stores, but everything else may change
between two of its requests: the faults, the clock, the record of events. A section keeps to its
course if, whatever is answered under such changes, each request either leaves the stores alone or is
one of four advances, and if its verdict fits what it has done. The advances and the exits say
everything that a section can do, guards included; nothing later looks at the procedures themselves.

What a section has done so far is its deed. It is read off the requests, so an observer of a run can
keep it without knowing the procedures.
-/
import Circulation.Proofs.Lending.Errand
import Circulation.Proofs.Store.Frame
import Circulation.Proofs.Store.Laws

namespace Circulation

open Time (Instant)

theorem LoanDraft.bookId_of_open? {user : UserId} {book : BookId} {days : Option Int}
    {now : Instant} {draft : LoanDraft} (h : open? user book days now = .ok draft) :
    draft.bookId = book := by
  simp only [open?] at h
  split at h
  · cases h
    rfl
  · cases h

theorem LoanDraft.userId_of_open? {user : UserId} {book : BookId} {days : Option Int}
    {now : Instant} {draft : LoanDraft} (h : open? user book days now = .ok draft) :
    draft.userId = user := by
  simp only [open?] at h
  split at h
  · cases h
    rfl
  · cases h

/-- The book with so many copies on the shelf. -/
def Book.withCopies (b : Book) (copies : Int) : Book := { b with availableCopies := copies }

@[simp]
theorem Book.withCopies_id (b : Book) (copies : Int) : (b.withCopies copies).id = b.id := rfl

/-! ## Deeds -/

namespace Desk

/-- The desk would write this book back now. -/
def saves (d : Desk) (b : Book) : Bool := !d.faults.failUpdates && (d.shelf.save b).1

/-- The loan that would be settled now. -/
def settles? (d : Desk) (id : LoanId) (user : UserId) : Option Loan :=
  (d.ledger.find? id).filter fun loan => decide (loan.userId = user) && loan.isBorrowed

end Desk

namespace Lending

/-- What a call has done to the stores so far. -/
inductive Deed where
  /-- Nothing yet; the clock may have been read. -/
  | nothing (read : Option Instant)
  /-- The loan was stored, the stock not yet written. -/
  | opened (loan : Loan)
  /-- The loan was stored and then the book with one copy less. -/
  | lent (loan : Loan) (book : Book)
  /-- The loan was settled, the stock not written, or not yet. -/
  | settled (loan : Loan)
  /-- The loan was settled and then the book written with one copy more. -/
  | restocked (loan : Loan) (book : Book)
deriving DecidableEq

namespace Deed

/-- The deed after a request, asked of this desk. -/
def after (deed : Deed) (q : Request) (d : Desk) : Deed :=
  match deed, q with
  | nothing _, .readClock => .nothing (some d.clock.read.1)
  | nothing read, .store (.createLoan draft) =>
    if d.faults.failCreates then .nothing read else .opened (d.ledger.create draft).1
  | nothing read, .store (.markReturned id user at_) =>
    match d.settles? id user with
    | some loan => .settled (loan.settled at_)
    | none => .nothing read
  | opened loan, .store (.saveBook b) => if d.saves b then .lent loan b else .opened loan
  | settled loan, .store (.saveBook b) => if d.saves b then .restocked loan b else .settled loan
  | deed, _ => deed

end Deed

/-! ## Advances -/

/-- What one request of a call behind the gate can do to the stores, and to its deed. -/
inductive Advance (e : Errand) : Deed → Stores → Deed → Stores → Prop
  | stay (deed : Deed) (st : Stores) : Advance e deed st deed st
  | read {r : Option Instant} (now : Instant) {st : Stores} :
      Advance e (.nothing r) st (.nothing (some now)) st
  /-- A book with a copy on the shelf goes out to a user who does not have it. -/
  | lend {c : Command} {user : UserId} {book : BookId} {found : Book} {draft : LoanDraft}
      {now : Instant} {st : Stores} (call : e = .borrow c) (named : c.payload.userId = some user)
      (wanted : c.payload.bookId = some book) (there : st.shelf.find? book = some found)
      (copies : 1 ≤ found.availableCopies) (free : st.ledger.hasActive user book = false)
      (drafted : LoanDraft.open? user book c.payload.days now = .ok draft) :
      Advance e (.nothing (some now)) st (.opened (st.ledger.create draft).1)
        { st with ledger := (st.ledger.create draft).2 }
  /-- The copy of the new loan is taken from the shelf. -/
  | take {loan : Loan} {found : Book} {st : Stores}
      (there : st.shelf.find? loan.bookId = some found) (copies : 1 ≤ found.availableCopies) :
      Advance e (.opened loan) st
        (.lent loan (found.withCopies (found.availableCopies - 1)))
        { st with shelf := st.shelf.put (found.withCopies (found.availableCopies - 1)) }
  /-- A borrowed loan is settled for its owner, or for nobody in particular. -/
  | settle {c : Command} {id : LoanId} {loan : Loan} {now : Instant} {st : Stores}
      (call : e = .giveBack c) (named : c.payload.loanId = some id)
      (there : st.ledger.find? id = some loan)
      (owner : ∀ user, c.payload.userId = some user → user = loan.userId)
      (borrowed : loan.isBorrowed = true) :
      Advance e (.nothing (some now)) st (.settled (loan.settled now))
        { st with ledger := st.ledger.settle loan now }
  /-- The copy of the settled loan is put back on the shelf. -/
  | restock {loan : Loan} {found : Book} {st : Stores}
      (there : st.shelf.find? loan.bookId = some found)
      (room : found.availableCopies < found.totalCopies) :
      Advance e (.settled loan) st
        (.restocked loan (found.withCopies (found.availableCopies + 1)))
        { st with shelf := st.shelf.put (found.withCopies (found.availableCopies + 1)) }

theorem Advance.numbered {e : Errand} {deed deed' : Deed} {st st' : Stores}
    (a : Advance e deed st deed' st') (before : st.ledger.Numbered) : st'.ledger.Numbered := by
  cases a with
  | lend => exact before.create _
  | settle _ _ there => exact before.settle (Ledger.find?_eq_some_iff.mp there).1 _
  | _ => exact before

/-- Why a call is refused that has done nothing but look at the stores, and at the clock. -/
inductive Refusal (e : Errand) (st : Stores) : Option Instant → Failure → Prop
  | noBook {c : Command} {book : BookId} {r : Option Instant} (call : e = .borrow c)
      (wanted : c.payload.bookId = some book) (gone : st.shelf.find? book = none) :
      Refusal e st r (.bookNotFound book)
  | noCopies {c : Command} {book : BookId} {found : Book} {r : Option Instant} (call : e = .borrow c)
      (wanted : c.payload.bookId = some book) (there : st.shelf.find? book = some found)
      (few : found.availableCopies < 1) : Refusal e st r (.noCopiesAvailable book)
  | active {c : Command} {user : UserId} {book : BookId} {r : Option Instant} (call : e = .borrow c)
      (named : c.payload.userId = some user) (wanted : c.payload.bookId = some book)
      (has : st.ledger.hasActive user book = true) : Refusal e st r (.alreadyBorrowed user book)
  | tooLong {c : Command} {user : UserId} {book : BookId} {now : Instant} {d : DurationOutOfRange}
      (call : e = .borrow c) (named : c.payload.userId = some user)
      (wanted : c.payload.bookId = some book)
      (beyond : LoanDraft.open? user book c.payload.days now = .error d) :
      Refusal e st (some now) (.invalidLoanDuration d.days)
  | noLoan {c : Command} {id : LoanId} {r : Option Instant} (call : e = .giveBack c)
      (named : c.payload.loanId = some id) (gone : st.ledger.find? id = none) :
      Refusal e st r (.loanNotFound id)
  | notOwner {c : Command} {id : LoanId} {loan : Loan} {user : UserId} {r : Option Instant}
      (call : e = .giveBack c) (named : c.payload.loanId = some id)
      (there : st.ledger.find? id = some loan) (by_ : c.payload.userId = some user)
      (other : user ≠ loan.userId) : Refusal e st r (.ownershipMismatch id loan.userId user)

/-- To hand a command in again that was refused cannot help. -/
theorem Refusal.permanent {e : Errand} {st : Stores} {r : Option Instant} {f : Failure}
    (refusal : Refusal e st r f) : f.kind = .permanent := by
  cases refusal <;> rfl

/-- What a verdict says about the deed and the stores, under faults of this kind. -/
inductive Exit (may : Faults → Prop) (e : Errand) : Deed → Stores → Verdict → Prop
  | refused {r : Option Instant} {st : Stores} {f : Failure} (refusal : Refusal e st r f) :
      Exit may e (.nothing r) st (.failed f)
  | unreachable {c : Command} {r : Option Instant} {st : Stores} {f : Failure}
      (call : e = .borrow c) (transient : f.kind = .transient)
      (faulty : ∃ s, may s ∧ (s.failReads = true ∨ s.failCreates = true)) :
      Exit may e (.nothing r) st (.failed f)
  | stockUnwritten {loan : Loan} {st : Stores} (faulty : ∃ s, may s ∧ s.failUpdates = true) :
      Exit may e (.opened loan) st (.failed (.bookStore Desk.booksUnavailable))
  | lent {loan : Loan} {taken : Book} {st : Stores} :
      Exit may e (.lent loan taken) st (.lent loan taken)
  | settledBefore {c : Command} {id : LoanId} {loan : Loan} {r : Option Instant} {st : Stores}
      (call : e = .giveBack c) (named : c.payload.loanId = some id)
      (there : st.ledger.find? id = some loan)
      (owner : ∀ user, c.payload.userId = some user → user = loan.userId)
      (past : loan.isBorrowed = false) :
      Exit may e (.nothing r) st (.settledBefore loan)
  | raceLost {loan : Loan} {st : Stores} (faulty : ∃ s, may s ∧ s.loseNextReturn = true) :
      Exit may e (.settled loan) st (.failed (.returnRace loan.id))
  | notRestocked {loan : Loan} {st : Stores}
      (faulty : ∃ s, may s ∧ (s.failReads = true ∨ s.failUpdates = true)) :
      Exit may e (.settled loan) st (.failed (.bookStore Desk.booksUnavailable))
  | bookGone {loan : Loan} {st : Stores} (gone : st.shelf.find? loan.bookId = none) :
      Exit may e (.settled loan) st (.returned loan none)
  | fullyStocked {loan : Loan} {found : Book} {st : Stores}
      (there : st.shelf.find? loan.bookId = some found)
      (full : found.totalCopies ≤ found.availableCopies) :
      Exit may e (.settled loan) st (.returned loan (some found.availableCopies))
  | restocked {loan : Loan} {book : Book} {st : Stores}
      (there : st.shelf.find? loan.bookId = some book) :
      Exit may e (.restocked loan book) st (.returned loan (some book.availableCopies))

/-- A section behind the gate keeps to its course. At each request the desk may be any that has these
stores and faults of this kind. -/
inductive Course (may : Faults → Prop) (e : Errand) : Deed → Stores → Procedure Verdict → Prop
  | done {deed : Deed} {st : Stores} {v : Verdict} (exit : Exit may e deed st v) :
      Course may e deed st (.done v)
  | ask {deed : Deed} {st : Stores} {q : Request} {next : q.Answer → Procedure Verdict}
      (inner : q.isInner = true)
      (advance : ∀ d : Desk, d.stores = st → may d.faults →
        Advance e deed st (deed.after q d) (Desk.answer q d).2.stores)
      (rest : ∀ d : Desk, d.stores = st → may d.faults →
        Course may e (deed.after q d) (Desk.answer q d).2.stores (next (Desk.answer q d).1)) :
      Course may e deed st (.ask q next)

/-! ## Courses of single requests -/

namespace Course

variable {may : Faults → Prop} {e : Errand} {deed : Deed} {st : Stores}

/-- A call to the stores, asked of a desk with these stores. -/
theorem call {c : StoreCall} {wrap : StoreError → Failure}
    {k : Except Failure c.Result → Procedure Verdict}
    (h : ∀ d : Desk, d.stores = st → may d.faults →
      Advance e deed st (deed.after (.store c) d) (Desk.answer (.store c) d).2.stores ∧
      Course may e (deed.after (.store c) d) (Desk.answer (.store c) d).2.stores
        (k ((Desk.answer (.store c) d).1.mapError wrap))) :
    Course may e deed st ((Attempt.ofAnswer wrap (.request (.store c))).run.andThen k) := by
  refine .ask rfl (fun d here ok => (h d here ok).1) (fun d here ok => ?_)
  have rest := (h d here ok).2
  cases answered : (Desk.answer (.store c) d).1 with
  | ok a =>
    rw [answered] at rest
    exact rest
  | error err =>
    rw [answered] at rest
    exact rest

/-- A call that leaves the desk and the deed alone. -/
theorem query {c : StoreCall} {wrap : StoreError → Failure}
    {k : Except Failure c.Result → Procedure Verdict}
    (same : ∀ d : Desk, deed.after (.store c) d = deed ∧ (Desk.answer (.store c) d).2 = d)
    (h : ∀ d : Desk, d.stores = st → may d.faults →
      Course may e deed st (k ((Desk.answer (.store c) d).1.mapError wrap))) :
    Course may e deed st ((Attempt.ofAnswer wrap (.request (.store c))).run.andThen k) := by
  refine call fun d here ok => ?_
  rw [(same d).1, (same d).2, here]
  exact ⟨.stay deed st, h d here ok⟩

theorem findBook {id : BookId} {k : Except Failure (Option Book) → Procedure Verdict}
    (fails : (∃ s, may s ∧ s.failReads = true) →
      Course may e deed st (k (.error (.bookStore Desk.booksUnavailable))))
    (finds : Course may e deed st (k (.ok (st.shelf.find? id)))) :
    Course may e deed st ((Lending.findBook id).run.andThen k) := by
  refine query (fun d => ⟨by cases deed <;> rfl, ?_⟩) (fun d here ok => ?_)
  · simp only [Desk.answer, Desk.answerStore]
    split <;> rfl
  · subst here
    simp only [Desk.answer, Desk.answerStore]
    split
    · rename_i flag
      exact fails ⟨d.faults, ok, flag⟩
    · exact finds

theorem findLoan {id : LoanId} {k : Except Failure (Option Loan) → Procedure Verdict}
    (finds : Course may e deed st (k (.ok (st.ledger.find? id)))) :
    Course may e deed st ((Lending.findLoan id).run.andThen k) := by
  refine query (fun d => ⟨by cases deed <;> rfl, rfl⟩) (fun d here _ => ?_)
  subst here
  exact finds

theorem hasActiveLoan {user : UserId} {book : BookId} {k : Except Failure Bool → Procedure Verdict}
    (finds : Course may e deed st (k (.ok (st.ledger.hasActive user book)))) :
    Course may e deed st ((Lending.hasActiveLoan user book).run.andThen k) := by
  refine query (fun d => ⟨by cases deed <;> rfl, rfl⟩) (fun d here _ => ?_)
  subst here
  exact finds

/-- A notice changes nothing. -/
theorem told {n : Notice} {p : Procedure Verdict} (h : Course may e deed st p) :
    Course may e deed st (.ask (.note n none) fun _ => p) := by
  have same : ∀ d : Desk, deed.after (.note n none) d = deed := fun d => by cases deed <;> rfl
  refine .ask rfl (fun d here _ => ?_) (fun d here _ => ?_)
  · subst here
    rw [same d]
    exact .stay _ _
  · subst here
    rw [same d]
    exact h

theorem note {n : Notice} {k : Except Failure Unit → Procedure Verdict}
    (h : Course may e deed st (k (.ok ()))) :
    Course may e deed st ((Lending.note n).run.andThen k) := told h

theorem readClock {r : Option Instant} {k : Except Failure Instant → Procedure Verdict}
    (h : ∀ now, Course may e (.nothing (some now)) st (k (.ok now))) :
    Course may e (.nothing r) st ((Lending.readClock).run.andThen k) := by
  refine .ask rfl (fun d here _ => ?_) (fun d here _ => ?_)
  · subst here
    exact .read d.clock.read.1
  · subst here
    exact h d.clock.read.1

theorem createLoan {draft : LoanDraft} {r : Option Instant}
    {k : Except Failure Loan → Procedure Verdict}
    (fails : (∃ s, may s ∧ s.failCreates = true) →
      Course may e (.nothing r) st (k (.error (.loanStore Desk.loansUnavailable))))
    (stored : Advance e (.nothing r) st (.opened (st.ledger.create draft).1)
      { st with ledger := (st.ledger.create draft).2 })
    (stores : Course may e (.opened (st.ledger.create draft).1)
      { st with ledger := (st.ledger.create draft).2 } (k (.ok (st.ledger.create draft).1))) :
    Course may e (.nothing r) st ((Lending.createLoan draft).run.andThen k) := by
  refine call fun d here ok => ?_
  subst here
  simp only [Desk.answer, Desk.answerStore, Deed.after]
  split
  · rename_i flag
    exact ⟨.stay _ _, fails ⟨d.faults, ok, flag⟩⟩
  · exact ⟨stored, stores⟩

/-- Settling a loan that is there and borrowed always settles it; the answer may deny it. -/
theorem markReturned {loan : Loan} {now : Instant} {r : Option Instant}
    {k : Except Failure Bool → Procedure Verdict}
    (there : st.ledger.find? loan.id = some loan) (borrowed : loan.isBorrowed = true)
    (settled : Advance e (.nothing r) st (.settled (loan.settled now))
      { st with ledger := st.ledger.settle loan now })
    (wins : Course may e (.settled (loan.settled now))
      { st with ledger := st.ledger.settle loan now } (k (.ok true)))
    (loses : (∃ s, may s ∧ s.loseNextReturn = true) →
      Course may e (.settled (loan.settled now))
        { st with ledger := st.ledger.settle loan now } (k (.ok false))) :
    Course may e (.nothing r) st
      ((Lending.markReturned loan.id loan.userId now).run.andThen k) := by
  refine call fun d here ok => ?_
  subst here
  -- Behind the gate nobody settled the loan since it was found.
  have found : d.settles? loan.id loan.userId = some loan := by
    have there : d.ledger.find? loan.id = some loan := there
    simp [Desk.settles?, there, borrowed]
  have marked := Ledger.markReturned_of_find? now there borrowed
  simp only [Desk.stores] at marked
  simp only [Desk.answer, Desk.answerStore, Deed.after, found, marked]
  refine ⟨settled, ?_⟩
  cases flag : d.faults.loseNextReturn with
  | true => exact loses ⟨d.faults, ok, flag⟩
  | false => exact wins

/-- Writing back a book that is there fails or writes it. -/
theorem saveBook {b old : Book} {deed' : Deed} {k : Except Failure Unit → Procedure Verdict}
    (there : st.shelf.find? b.id = some old)
    (written : ∀ d : Desk, deed.after (.store (.saveBook b)) d = if d.saves b then deed' else deed)
    (fails : (∃ s, may s ∧ s.failUpdates = true) →
      Course may e deed st (k (.error (.bookStore Desk.booksUnavailable))))
    (saved : Advance e deed st deed' { st with shelf := st.shelf.put b })
    (saves : Course may e deed' { st with shelf := st.shelf.put b } (k (.ok ()))) :
    Course may e deed st ((Lending.saveBook b).run.andThen k) := by
  rw [Lending.saveBook, Attempt.run_bind_andThen]
  refine call fun d here ok => ?_
  subst here
  have replaced : d.shelf.save b = (true, d.shelf.put b) := Shelf.save_of_find? there
  rw [written d]
  -- The book is there, so only a fault keeps it from being written.
  cases flag : d.faults.failUpdates with
  | true =>
    simp only [Desk.answer, Desk.answerStore, Desk.saves, flag]
    exact ⟨.stay _ _, fails ⟨d.faults, ok, flag⟩⟩
  | false =>
    simp only [Desk.answer, Desk.answerStore, Desk.saves, flag, replaced]
    exact ⟨saved, saves⟩

/-- A command goes on with a loan if it names no user or the owner. -/
theorem checkOwner {id : LoanId} {loan : Loan} {named : Option UserId}
    {k : Except Failure Unit → Procedure Verdict}
    (fails : ∀ user, named = some user → user ≠ loan.userId →
      Course may e deed st (k (.error (.ownershipMismatch id loan.userId user))))
    (passes : (∀ user, named = some user → user = loan.userId) → Course may e deed st (k (.ok ()))) :
    Course may e deed st ((Lending.checkOwner id loan named).run.andThen k) := by
  cases named with
  | none => exact passes (by simp)
  | some user =>
    by_cases owner : user = loan.userId
    · simp only [Lending.checkOwner, owner, if_true]
      exact passes (by simp [owner])
    · simp only [Lending.checkOwner, owner, if_false]
      exact fails user rfl owner

end Course

/-! ## The courses of lending and settling -/

/-- Lending keeps to its course, whatever the stores hold when it begins. -/
theorem lend_course (may : Faults → Prop) {c : Command} {user : UserId} {book : BookId}
    (named : c.payload.userId = some user) (wanted : c.payload.bookId = some book)
    (r : Option Instant) (st : Stores) :
    Course may (.borrow c) (.nothing r) st
      ((lend user book c.payload.days).run.andThen fun x => .done (.ofLend x)) := by
  simp only [lend, Attempt.run_bind_andThen, Attempt.run_need_andThen, Attempt.run_ofExcept_andThen]
  refine Course.findBook (fun ⟨s, ok, flag⟩ => .done (.unreachable rfl rfl ⟨s, ok, .inl flag⟩)) ?_
  cases there : st.shelf.find? book with
  | none => exact .done (.refused (.noBook rfl wanted there))
  | some found =>
    by_cases few : found.availableCopies < 1
    · simp only [Book.takeCopy_of_lt few]
      exact .done (.refused (.noCopies rfl wanted there few))
    · have copies : 1 ≤ found.availableCopies := by omega
      simp only [Book.takeCopy_of_le copies]
      refine Course.hasActiveLoan ?_
      cases free : st.ledger.hasActive user book with
      | true => exact .done (.refused (.active rfl named wanted free))
      | false =>
        simp only [Bool.false_eq_true, if_false, Attempt.run_bind_andThen]
        refine Course.readClock fun now => ?_
        simp only [Attempt.run_ofExcept_andThen]
        cases drafted : LoanDraft.open? user book c.payload.days now with
        | error e => exact .done (.refused (.tooLong rfl named wanted drafted))
        | ok draft =>
          dsimp only
          have bookId : draft.bookId = book := LoanDraft.bookId_of_open? drafted
          have id : found.id = book := Shelf.id_of_find? there
          refine Course.createLoan
            (fun ⟨s, ok, flag⟩ => .done (.unreachable rfl rfl ⟨s, ok, .inr flag⟩))
            (.lend rfl named wanted there copies free drafted) ?_
          -- Storing the loan has left the shelf alone: the book found before is the one to write.
          have still : st.shelf.find? (st.ledger.create draft).1.bookId = some found := by
            show st.shelf.find? draft.bookId = some found
            rw [bookId, there]
          have kept : st.shelf.find? found.id = some found := by rw [id, there]
          simp only [run_noting_andThen]
          refine Course.saveBook kept (fun _ => rfl)
            (fun faulty => ?_) (.take still copies) (.done .lent)
          exact Course.told (.done (.stockUnwritten faulty))

/-- Putting a copy back keeps to its course. -/
theorem restock_course (may : Faults → Prop) (e : Errand) (loan : Loan) (st : Stores)
    {k : Except Failure (Option Int) → Procedure Verdict}
    (fails : (∃ s, may s ∧ (s.failReads = true ∨ s.failUpdates = true)) →
      Course may e (.settled loan) st (k (.error (.bookStore Desk.booksUnavailable))))
    (succeeds : ∀ deed st' remaining, Exit may e deed st' (.returned loan remaining) →
      Course may e deed st' (k (.ok remaining))) :
    Course may e (.settled loan) st ((restock loan.bookId).run.andThen k) := by
  simp only [restock, Attempt.run_bind_andThen]
  refine Course.findBook (fun ⟨s, ok, flag⟩ => fails ⟨s, ok, .inl flag⟩) ?_
  cases there : st.shelf.find? loan.bookId with
  | none =>
    simp only [Attempt.run_bind_andThen]
    refine Course.note ?_
    exact succeeds _ _ _ (.bookGone there)
  | some found =>
    by_cases full : found.totalCopies ≤ found.availableCopies
    · simp only [Book.restockCopy_of_le full, Attempt.run_bind_andThen]
      refine Course.note ?_
      exact succeeds _ _ _ (.fullyStocked there full)
    · have room : found.availableCopies < found.totalCopies := by omega
      -- The event will tell the copies that are there after the write.
      have kept : st.shelf.find? found.id = some found := by rw [Shelf.id_of_find? there, there]
      have held : Shelf.find? (st.shelf.put (found.withCopies (found.availableCopies + 1)))
          loan.bookId = some (found.withCopies (found.availableCopies + 1)) := by
        rw [Shelf.find?_put]
        exact if_pos (Shelf.id_of_find? there)
      simp only [Book.restockCopy_of_lt room, Attempt.run_bind_andThen]
      exact Course.saveBook kept (fun _ => rfl) (fun ⟨s, ok, flag⟩ => fails ⟨s, ok, .inr flag⟩)
        (.restock there room) (succeeds _ _ _ (.restocked held))

/-- Settling keeps to its course, whatever the stores hold when it begins. -/
theorem settle_course (may : Faults → Prop) {c : Command} {id : LoanId}
    (named : c.payload.loanId = some id) (r : Option Instant) (st : Stores) :
    Course may (.giveBack c) (.nothing r) st
      ((settle id c.payload.userId).run.andThen fun x => .done (.ofSettle x)) := by
  simp only [settle, Attempt.run_bind_andThen, Attempt.run_need_andThen]
  refine Course.findLoan ?_
  cases there : st.ledger.find? id with
  | none => exact .done (.refused (.noLoan rfl named there))
  | some loan =>
    have ownId : loan.id = id := (Ledger.find?_eq_some_iff.mp there).2
    dsimp only
    refine Course.checkOwner (fun user by_ other => .done (.refused (.notOwner rfl named there by_ other)))
      fun owner => ?_
    cases borrowed : loan.isBorrowed with
    | false =>
      simp only [Bool.false_eq_true, if_false, Attempt.run_bind_andThen]
      refine Course.note ?_
      exact .done (.settledBefore rfl named there owner borrowed)
    | true =>
      simp only [if_true, Attempt.run_bind_andThen]
      refine Course.readClock fun now => ?_
      dsimp only
      -- The answer may deny a settling that took place; both ways the loan is settled.
      refine Course.markReturned (by rw [ownId, there]) borrowed
        (.settle rfl named there owner borrowed) ?_ (fun faulty => ?_)
      · simp only [if_true, Attempt.run_bind_andThen]
        exact restock_course may _ (loan.settled now) _ (fun faulty => .done (.notRestocked faulty))
          fun deed st' remaining exit => .done exit
      · rw [← ownId]
        exact .done (.raceLost faulty)

/-! ## Requests behind the gate -/

/-- What a call to anybody asks is that call. -/
theorem asks_ofAnswer {α δ ε : Type} {P : Request → Prop} {wrap : δ → ε} {p : Procedure (Except δ α)}
    (asks : p.Asks P) : (Attempt.ofAnswer wrap p).run.Asks P := by
  refine asks.andThen fun a => ?_
  cases a <;> exact .done _

/-- Given behind the gate, about what is found there. -/
def isRemark : Notice → Bool
  | .inventoryNotDecremented .. | .loanAlreadySettled .. | .returnedBookGone _
  | .bookFullyStocked .. => true
  | _ => false

/-- Asks the stores or the clock, or takes notice of what is found behind the gate. -/
def isSober : Request → Bool
  | .store _ | .readClock => true
  | .note n _ => isRemark n
  | _ => false

theorem isGate_of_isSober {q : Request} (h : isSober q = true) : q.isGate = false := by
  cases q <;> first | rfl | exact absurd h Bool.false_ne_true

/-- Asks only what is asked behind the gate. -/
abbrev Inner {α : Type} : Procedure α → Prop := Procedure.Asks fun q => isSober q = true

section Inner

variable {α β ε : Type}

/-- One attempt after the other. -/
theorem asks_bind {P : Request → Prop} {x : Attempt ε α} {f : α → Attempt ε β} (first : x.run.Asks P)
    (rest : ∀ a, (f a).run.Asks P) : (x >>= f).run.Asks P := by
  show (x.run.andThen (ExceptT.bindCont f)).Asks P
  refine first.andThen fun r => ?_
  cases r with
  | ok a => exact rest a
  | error e => exact .done _

theorem inner_call {c : StoreCall} {wrap : StoreError → ε} :
    Inner (Attempt.ofAnswer wrap (.request (.store c))).run :=
  asks_ofAnswer (.ask rfl .done)

theorem inner_need {e : ε} {o : Option α} : Inner (Attempt.need e o).run := by
  cases o <;> exact .done _

theorem inner_ofExcept {δ : Type} {wrap : δ → ε} {r : Except δ α} :
    Inner (Attempt.ofExcept wrap r).run := by
  cases r <;> exact .done _

theorem inner_clock : Inner readClock.run := .ask rfl fun _ => .done _

theorem inner_note {n : Notice} (remark : isRemark n = true) : Inner (note n).run :=
  .ask remark fun _ => .done _

theorem inner_saveBook {b : Book} : Inner (saveBook b).run := by
  refine asks_bind inner_call fun saved => ?_
  cases saved <;> exact .done _

theorem inner_noting {n : Failure → Notice} (remark : ∀ f, isRemark (n f) = true)
    {x : Attempt Failure α} (h : Inner x.run) : Inner (noting n x).run := by
  refine h.andThen fun r => ?_
  cases r with
  | ok a => exact .done _
  | error f => exact .ask (remark f) fun _ => .done _

end Inner

theorem lend_inner (user : UserId) (book : BookId) (days : Option Int) :
    Inner (lend user book days).run := by
  refine asks_bind inner_call fun _ => asks_bind inner_need fun found =>
    asks_bind inner_ofExcept fun taken => asks_bind inner_call fun active => ?_
  cases active with
  | true => exact .done _
  | false =>
    exact asks_bind inner_clock fun now => asks_bind inner_ofExcept fun draft =>
      asks_bind inner_call fun loan => asks_bind (inner_noting (fun _ => rfl) inner_saveBook)
        fun _ => .done _

theorem restock_inner (book : BookId) : Inner (restock book).run := by
  refine asks_bind inner_call fun found? => ?_
  cases found? with
  | none => exact asks_bind (inner_note rfl) fun _ => .done _
  | some found =>
    dsimp only
    cases found.restockCopy with
    | ok restocked => exact asks_bind inner_saveBook fun _ => .done _
    | error e => exact asks_bind (inner_note rfl) fun _ => .done _

theorem settle_inner (id : LoanId) (user : Option UserId) : Inner (settle id user).run := by
  refine asks_bind inner_call fun _ => asks_bind inner_need fun loan => asks_bind ?_ fun _ => ?_
  · cases user with
    | none => exact .done _
    | some user =>
      simp only [checkOwner]
      split <;> exact .done _
  · cases loan.isBorrowed with
    | false => exact asks_bind (inner_note rfl) fun _ => .done _
    | true =>
      refine asks_bind inner_clock fun now => asks_bind inner_call fun marked => ?_
      cases marked with
      | false => exact .done _
      | true => exact asks_bind (restock_inner loan.bookId) fun _ => .done _

/-! ## Whole calls -/

/-- The section of a call asks only what is asked behind the gate. -/
theorem section_inner {e : Errand} {p : Procedure Verdict} (behind : e.section? = .ok p) :
    Inner p := by
  cases e with
  | borrow c =>
    simp only [Errand.section?] at behind
    split at behind
    · cases behind
    · cases behind
    · cases behind
      exact (lend_inner _ _ _).andThen fun _ => .done _
  | giveBack c =>
    simp only [Errand.section?] at behind
    split at behind
    · cases behind
    · cases behind
      exact (settle_inner _ _).andThen fun _ => .done _

/-- The section of a call keeps to its course from any stores. -/
theorem section_course (may : Faults → Prop) {e : Errand} {p : Procedure Verdict}
    (behind : e.section? = .ok p) (r : Option Instant) (st : Stores) :
    Course may e (.nothing r) st p := by
  cases e with
  | borrow c =>
    simp only [Errand.section?] at behind
    split at behind
    · cases behind
    · cases behind
    · rename_i user book named wanted
      cases behind
      exact lend_course may named wanted r st
  | giveBack c =>
    simp only [Errand.section?] at behind
    split at behind
    · cases behind
    · rename_i id named
      cases behind
      exact settle_course may named r st

/-- What is left after the gate is the news of the verdict, which go to the sink. -/
theorem Verdict.epilogue_public {emit : EventSink} (sink : ∀ ev, (emit ev).Public) (v : Verdict) :
    (v.epilogue emit).Public := by
  unfold epilogue
  split
  · exact .done _
  · exact .ask rfl fun now => (sink _).andThen fun _ => .ask rfl fun _ => .done _

/-- A call passes the gate at most once and leaves it, and after the gate it is public. -/
theorem Errand.gated {emit : EventSink} (sink : ∀ ev, (emit ev).Public) (e : Errand) :
    (e.procedure emit).Gated := by
  rw [Errand.procedure_eq]
  cases behind : e.section? with
  | error f => exact .outside (.done _)
  | ok p =>
    have plain : p.Asks fun q => q.isGate = false :=
      (section_inner behind).mono fun _ => isGate_of_isSober
    exact .enter (.of_section plain fun v => .leave (v.epilogue_public sink))

/-- A call that lacks something is over, and any other begins at the gate. -/
theorem Errand.prompt (emit : EventSink) (e : Errand) : (e.procedure emit).Prompt := by
  rw [Errand.procedure_eq]
  cases e.section? with
  | error f => exact .ended _
  | ok p => exact .gate _

end Lending

end Circulation
