/- # Circulation.Proofs.Lending.Checks -- which failure a call comes to

Whether a call succeeds is decided by checks that are made in a fixed order: what the command names,
what the stores hold, what the clock says and which faults are switched on. `Errand.checks` lists them
with the failure that each stands for. A call succeeds exactly if every check is passed, and otherwise
it fails as the first one does that is not (`failure_of_checks`).

The proof goes along the call. At each request the check that belongs to it is passed, and the call goes
on with the rest of the list, or it is not passed, and the call is over (`Follows.pass`,
`Follows.stop`). On the way it shows what a call that stops there leaves behind (`Errand.Leaves`): its
loan, if it could not write the stock of a book that it lends; the settled loan, if its settling was
lost or the copy could not be put back; and nothing at any other check.
-/
import Circulation.Proofs.Lending.Course
import Circulation.Proofs.Store.Timed
import Circulation.Proofs.Time.Period

namespace Circulation

open Time (Instant)

/-- Days that end inside the range make a draft. -/
theorem LoanDraft.exists_of_open? (user : UserId) (book : BookId) {days : Option Int} {now : Instant}
    (within : now.seconds + resolveLoanDays days * 86400 ≤ Time.latest) :
    ∃ draft, open? user book days now = .ok draft := by
  obtain ⟨due, later, -⟩ := Time.Instant.exists_addDays? (resolveLoanDays_pos days) within
  exact ⟨⟨user, book, now, due⟩, by simp [open?, later]⟩

theorem LoanDraft.open?_of_lt (user : UserId) (book : BookId) {days : Option Int} {now : Instant}
    (beyond : Time.latest < now.seconds + resolveLoanDays days * 86400) :
    open? user book days now = .error ⟨resolveLoanDays days⟩ := by
  simp [open?, Time.Instant.addDays?_eq_none_of_lt beyond]

namespace Lending

/-! ## Checks -/

/-- What is checked. -/
inductive Step where
  | userId
  | bookId
  | loanId
  | bookRead
  | bookExists
  | stock
  | activeLoan
  | duration
  | loanCreation
  | loanExists
  | owner
  | race
  | inventoryWrite
deriving DecidableEq

/-- A check, with the failure of a call that does not pass it. -/
structure Check where
  step : Step
  passes : Prop
  failure : Failure

/-- The checks behind the gate of a call to borrow. -/
def lendChecks (user : UserId) (book : BookId) (days : Option Int) (t : Timed) : List Check :=
  [⟨.bookRead, t.desk.faults.failReads = false, .bookStore Desk.booksUnavailable⟩,
    ⟨.bookExists, ∃ found, t.desk.shelf.find? book = some found, .bookNotFound book⟩,
    ⟨.stock, ∃ found, t.desk.shelf.find? book = some found ∧ 1 ≤ found.availableCopies,
      .noCopiesAvailable book⟩,
    ⟨.activeLoan, ¬∃ loan ∈ t.desk.ledger.loans.toList,
      loan.userId = user ∧ loan.bookId = book ∧ loan.status = .borrowed, .alreadyBorrowed user book⟩,
    ⟨.duration, (t.readings 0).seconds + resolveLoanDays days * 86400 ≤ Time.latest,
      .invalidLoanDuration (resolveLoanDays days)⟩,
    ⟨.loanCreation, t.desk.faults.failCreates = false, .loanStore Desk.loansUnavailable⟩,
    ⟨.inventoryWrite, t.desk.faults.failUpdates = false, .bookStore Desk.booksUnavailable⟩]

/-- A user that the command names must be the owner. -/
def ownerChecks (loan : Loan) : Option UserId → List Check
  | none => []
  | some user => [⟨.owner, user = loan.userId, .ownershipMismatch loan.id loan.userId user⟩]

/-- The checks that a loan still has to pass when it is found; they are for borrowed loans, and the
stock is written only if there is room for a copy. -/
def returnChecks (loan : Loan) (t : Timed) : List Check :=
  [⟨.race, loan.status = .borrowed → t.desk.faults.loseNextReturn = false, .returnRace loan.id⟩,
    ⟨.bookRead, loan.status = .borrowed → t.desk.faults.failReads = false,
      .bookStore Desk.booksUnavailable⟩,
    ⟨.inventoryWrite, loan.status = .borrowed → ∀ found, t.desk.shelf.find? loan.bookId = some found →
      found.availableCopies < found.totalCopies → t.desk.faults.failUpdates = false,
      .bookStore Desk.booksUnavailable⟩]

/-- The checks behind the gate of a call to return. -/
def settleChecks (id : LoanId) (user : Option UserId) (t : Timed) : List Check :=
  ⟨.loanExists, ∃ loan, t.desk.ledger.find? id = some loan, .loanNotFound id⟩ ::
    match t.desk.ledger.find? id with
    | none => []
    | some loan => ownerChecks loan user ++ returnChecks loan t

/-- All checks of a call, in their order. Those behind the gate are about what the command names; where
it does not name it, a check before the gate is not passed. -/
def Errand.checks : Errand → Timed → List Check
  | borrow c, t =>
    ⟨.userId, c.payload.userId.isSome, .missingUserId⟩ ::
      ⟨.bookId, c.payload.bookId.isSome, .missingBookId⟩ ::
        match c.payload.userId, c.payload.bookId with
        | some user, some book => lendChecks user book c.payload.days t
        | _, _ => []
  | giveBack c, t =>
    ⟨.loanId, c.payload.loanId.isSome, .missingLoanId⟩ ::
      match c.payload.loanId with
      | some id => settleChecks id c.payload.userId t
      | none => []

/-- The check is the first of its list that is not passed. -/
def FirstFailing (checks : List Check) (check : Check) : Prop :=
  ∃ before after, checks = before ++ check :: after ∧ (∀ earlier ∈ before, earlier.passes) ∧
    ¬check.passes

namespace FirstFailing

variable {check check' : Check} {checks : List Check}

theorem head (fails : ¬check.passes) : FirstFailing (check :: checks) check :=
  ⟨[], checks, rfl, by simp, fails⟩

theorem tail (passes : check.passes) (h : FirstFailing checks check') :
    FirstFailing (check :: checks) check' := by
  obtain ⟨before, after, rfl, earlier, fails⟩ := h
  exact ⟨check :: before, after, rfl, by simpa using ⟨passes, earlier⟩, fails⟩

theorem cons_iff : FirstFailing (check :: checks) check' ↔
    (¬check.passes ∧ check' = check) ∨ (check.passes ∧ FirstFailing checks check') := by
  constructor
  · rintro ⟨before, after, split, earlier, fails⟩
    cases before with
    | nil =>
      obtain ⟨rfl, -⟩ := List.cons.inj split
      exact .inl ⟨fails, rfl⟩
    | cons first before =>
      obtain ⟨rfl, rest⟩ := List.cons.inj split
      refine .inr ⟨earlier _ List.mem_cons_self, before, after, rest, ?_, fails⟩
      exact fun c mem => earlier c (List.mem_cons_of_mem _ mem)
  · rintro (⟨fails, rfl⟩ | ⟨passes, rest⟩)
    · exact head fails
    · exact tail passes rest

theorem unique (h : FirstFailing checks check) (h' : FirstFailing checks check') : check' = check := by
  induction checks with
  | nil =>
    obtain ⟨before, after, split, -⟩ := h
    simp at split
  | cons first rest ih =>
    rcases cons_iff.mp h with ⟨fails, rfl⟩ | ⟨passes, later⟩
    · rcases cons_iff.mp h' with ⟨-, rfl⟩ | ⟨passes, -⟩
      · rfl
      · exact absurd passes fails
    · rcases cons_iff.mp h' with ⟨fails, -⟩ | ⟨-, later'⟩
      · exact absurd passes fails
      · exact ih later later'

theorem mem (h : FirstFailing checks check) : check ∈ checks := by
  obtain ⟨before, after, rfl, -⟩ := h
  simp

theorem fails (h : FirstFailing checks check) : ¬check.passes := by
  obtain ⟨before, after, -, -, fails⟩ := h
  exact fails

end FirstFailing

/-! ## What is left behind -/

/-- The desk that a call leaves when it does not pass a check. A call to borrow has stored its loan by
the time the stock is to be written. A call to return has settled its loan by the time the settling is
confirmed and the copy is to be put back. Before that nothing is changed. -/
def Errand.Leaves (e : Errand) (t : Timed) (step : Step) (d : Desk) : Prop :=
  match e, step with
  | borrow c, .inventoryWrite => ∃ user book draft, c.payload.userId = some user ∧
      c.payload.bookId = some book ∧
      LoanDraft.open? user book c.payload.days (t.readings 0) = .ok draft ∧
      d = { t.desk with ledger := (t.desk.ledger.create draft).2 }
  | giveBack c, .race | giveBack c, .bookRead | giveBack c, .inventoryWrite => ∃ loan : Loan,
      c.payload.loanId = some loan.id ∧ t.desk.ledger.find? loan.id = some loan ∧
      (∀ user, c.payload.userId = some user → user = loan.userId) ∧ loan.isBorrowed = true ∧
      d = (t.settle loan (t.readings 0)).desk
  | _, _ => d = t.desk

/-! ## Calls that go by their checks -/

/-- A call comes out as its checks say. If they are all passed it succeeds, and if not it fails as the
first one does that is not, and leaves the desk as that check has it. -/
def Follows {α : Type} (checks : List Check) (left_ : Step → Desk → Prop) :
    Except Failure α × Timed → Prop
  | (.ok _, _) => ∀ check ∈ checks, check.passes
  | (.error f, t) => ∃ check, FirstFailing checks check ∧ f = check.failure ∧ left_ check.step t.desk

namespace Follows

variable {α : Type} {check : Check} {checks : List Check} {left_ : Step → Desk → Prop}
  {out : Except Failure α × Timed}

theorem pass (passes : check.passes) (h : Follows checks left_ out) :
    Follows (check :: checks) left_ out := by
  obtain ⟨r, t⟩ := out
  cases r with
  | ok a =>
    intro c mem
    rcases List.mem_cons.mp mem with rfl | mem
    · exact passes
    · exact h c mem
  | error f =>
    obtain ⟨c, first, why, kept⟩ := h
    exact ⟨c, first.tail passes, why, kept⟩

theorem finish (a : α) (t : Timed) : Follows [] left_ (.ok a, t) := by
  intro check mem
  cases mem

theorem stop {t : Timed} (fails : ¬check.passes) (leaves : left_ check.step t.desk) :
    Follows (α := α) (check :: checks) left_ (.error check.failure, t) :=
  ⟨check, .head fails, rfl, leaves⟩

theorem ok_iff (h : Follows checks left_ out) :
    (∃ a, out.1 = .ok a) ↔ ∀ check ∈ checks, check.passes := by
  obtain ⟨r, t⟩ := out
  cases r with
  | ok a => exact ⟨fun _ => h, fun _ => ⟨a, rfl⟩⟩
  | error f =>
    obtain ⟨check, first, -⟩ := h
    constructor
    · rintro ⟨a, impossible⟩
      cases impossible
    · intro all
      exact absurd (all check first.mem) first.fails

theorem error_iff (h : Follows checks left_ out) {f : Failure} :
    out.1 = .error f ↔ ∃ check, FirstFailing checks check ∧ f = check.failure := by
  obtain ⟨r, t⟩ := out
  cases r with
  | ok a =>
    constructor
    · intro impossible
      cases impossible
    · rintro ⟨check, first, -⟩
      exact absurd (h check first.mem) first.fails
  | error g =>
    obtain ⟨check, first, why, -⟩ := h
    constructor
    · intro same
      cases same
      exact ⟨check, first, why⟩
    · rintro ⟨check', first', rfl⟩
      rw [why, first.unique first']

end Follows

/-! ## The course of the checks -/

/-- What a section behind the gate comes to: the answer, and the desk as it leaves it. -/
def outcome (p : Procedure Verdict) (t : Timed) : Except Failure Served × Timed :=
  ((p.run Timed.answer t).1.answer, (p.run Timed.answer t).2)

theorem outcome_call {c : StoreCall} {r : c.Answer} {wrap : StoreError → Failure} {t : Timed} {d : Desk}
    (answered : Desk.answerStore c t.desk = (r, d)) (k : Except Failure c.Result → Procedure Verdict) :
    outcome ((Attempt.ofAnswer wrap (.request (.store c))).run.andThen k) t =
      outcome (k (r.mapError wrap)) { t with desk := d } := by
  simp only [outcome, Timed.run_call answered]

theorem outcome_findBook {id : BookId} {t : Timed} (works : t.desk.faults.failReads = false)
    (k : Except Failure (Option Book) → Procedure Verdict) :
    outcome ((findBook id).run.andThen k) t = outcome (k (.ok (t.desk.shelf.find? id))) t := by
  have read : Desk.answerStore (.findBook id) t.desk = (.ok (t.desk.shelf.find? id), t.desk) := by
    simp [Desk.answerStore, works]
  rw [findBook, outcome_call read]
  rfl

theorem outcome_findBook_of_fault {id : BookId} {t : Timed} (faulty : t.desk.faults.failReads = true)
    (k : Except Failure (Option Book) → Procedure Verdict) :
    outcome ((findBook id).run.andThen k) t =
      outcome (k (.error (.bookStore Desk.booksUnavailable))) t := by
  have refused : Desk.answerStore (.findBook id) t.desk = (.error Desk.booksUnavailable, t.desk) := by
    simp [Desk.answerStore, faulty]
  rw [findBook, outcome_call refused]
  rfl

theorem outcome_hasActiveLoan {user : UserId} {book : BookId} {t : Timed}
    (k : Except Failure Bool → Procedure Verdict) :
    outcome ((hasActiveLoan user book).run.andThen k) t =
      outcome (k (.ok (t.desk.ledger.hasActive user book))) t := rfl

theorem outcome_createLoan {draft : LoanDraft} {t : Timed} (works : t.desk.faults.failCreates = false)
    (k : Except Failure Loan → Procedure Verdict) :
    outcome ((createLoan draft).run.andThen k) t =
      outcome (k (.ok (t.desk.ledger.create draft).1)) (t.setLedger (t.desk.ledger.create draft).2) := by
  have stored : Desk.answerStore (.createLoan draft) t.desk =
      (.ok (t.desk.ledger.create draft).1,
        { t.desk with ledger := (t.desk.ledger.create draft).2 }) := by
    simp [Desk.answerStore, works]
  rw [createLoan, outcome_call stored]
  rfl

theorem outcome_createLoan_of_fault {draft : LoanDraft} {t : Timed}
    (faulty : t.desk.faults.failCreates = true) (k : Except Failure Loan → Procedure Verdict) :
    outcome ((createLoan draft).run.andThen k) t =
      outcome (k (.error (.loanStore Desk.loansUnavailable))) t := by
  have refused : Desk.answerStore (.createLoan draft) t.desk = (.error Desk.loansUnavailable, t.desk) := by
    simp [Desk.answerStore, faulty]
  rw [createLoan, outcome_call refused]
  rfl

theorem outcome_findLoan {id : LoanId} {t : Timed}
    (k : Except Failure (Option Loan) → Procedure Verdict) :
    outcome ((findLoan id).run.andThen k) t = outcome (k (.ok (t.desk.ledger.find? id))) t := rfl

/-- A borrowed loan is settled in any case; the answer may deny it. -/
theorem outcome_markReturned {loan : Loan} {now : Instant} {t : Timed}
    (there : t.desk.ledger.find? loan.id = some loan) (borrowed : loan.isBorrowed = true)
    (k : Except Failure Bool → Procedure Verdict) :
    outcome ((markReturned loan.id loan.userId now).run.andThen k) t =
      outcome (k (.ok (!t.desk.faults.loseNextReturn))) (t.settle loan now) := by
  have marked : Desk.answerStore (.markReturned loan.id loan.userId now) t.desk =
      (.ok (!t.desk.faults.loseNextReturn), (t.settle loan now).desk) := by
    simp [Desk.answerStore, Ledger.markReturned_of_find? now there borrowed, Timed.settle]
  rw [markReturned, outcome_call marked]
  rfl

theorem outcome_note {n : Notice} {t : Timed} (k : Except Failure Unit → Procedure Verdict) :
    outcome ((note n).run.andThen k) t = outcome (k (.ok ())) t := rfl

theorem outcome_pure {α : Type} {a : α} {t : Timed} (k : Except Failure α → Procedure Verdict) :
    outcome ((pure a : Attempt Failure α).run.andThen k) t = outcome (k (.ok a)) t := rfl

theorem outcome_readClock {t : Timed} (k : Except Failure Instant → Procedure Verdict) :
    outcome (readClock.run.andThen k) t =
      outcome (k (.ok (t.readings 0))) { t with readings := fun n => t.readings (n + 1) } := rfl

/-- The stock of a book that is there is written unless updates fail. -/
theorem outcome_saveBook {b old : Book} {t : Timed} (there : t.desk.shelf.find? b.id = some old)
    (works : t.desk.faults.failUpdates = false) (k : Except Failure Unit → Procedure Verdict) :
    outcome ((saveBook b).run.andThen k) t =
      outcome (k (.ok ())) (t.setShelf (t.desk.shelf.put b)) := by
  have saved : Desk.answerStore (.saveBook b) t.desk =
      (.ok true, { t.desk with shelf := t.desk.shelf.put b }) := by
    simp [Desk.answerStore, works, Shelf.save_of_find? there]
  rw [saveBook, Attempt.run_bind_andThen, outcome_call saved]
  rfl

theorem outcome_saveBook_of_fault {b : Book} {t : Timed} (faulty : t.desk.faults.failUpdates = true)
    (k : Except Failure Unit → Procedure Verdict) :
    outcome ((saveBook b).run.andThen k) t =
      outcome (k (.error (.bookStore Desk.booksUnavailable))) t := by
  have refused : Desk.answerStore (.saveBook b) t.desk = (.error Desk.booksUnavailable, t.desk) := by
    simp [Desk.answerStore, faulty]
  rw [saveBook, Attempt.run_bind_andThen, outcome_call refused]
  rfl

/-- A loan is stored unless creating fails, and then the stock is written unless updates fail. -/
theorem store_follows (draft : LoanDraft) (book : BookId) (taken : Book) {old : Book} {t : Timed}
    {left_ : Step → Desk → Prop} (there : t.desk.shelf.find? taken.id = some old)
    (uncreated : left_ .loanCreation t.desk)
    (unwritten : left_ .inventoryWrite { t.desk with ledger := (t.desk.ledger.create draft).2 }) :
    Follows
      [⟨.loanCreation, t.desk.faults.failCreates = false, .loanStore Desk.loansUnavailable⟩,
        ⟨.inventoryWrite, t.desk.faults.failUpdates = false, .bookStore Desk.booksUnavailable⟩] left_
      (outcome
        ((do
          let loan ← createLoan draft
          noting (.inventoryNotDecremented loan.id book) (saveBook taken)
          return (loan, taken) : Attempt Failure (Loan × Book)).run.andThen
            fun x => .done (.ofLend x)) t) := by
  simp only [Attempt.run_bind_andThen, run_noting_andThen]
  cases creates : t.desk.faults.failCreates with
  | true =>
    rw [outcome_createLoan_of_fault creates]
    exact .stop (by simp) uncreated
  | false =>
    rw [outcome_createLoan creates]
    apply Follows.pass rfl
    dsimp only
    -- The stock is written on the desk that has the loan.
    let stored := t.setLedger (t.desk.ledger.create draft).2
    cases updates : t.desk.faults.failUpdates with
    | true =>
      rw [outcome_saveBook_of_fault (t := stored) updates]
      exact .stop (by simp) unwritten
    | false =>
      rw [outcome_saveBook (t := stored) there updates]
      exact .pass rfl (.finish _ _)

/-- Lending goes by its checks. -/
theorem lend_follows {c : Command} {user : UserId} {book : BookId}
    (named : c.payload.userId = some user) (wanted : c.payload.bookId = some book) (t : Timed) :
    Follows (lendChecks user book c.payload.days t) ((Errand.borrow c).Leaves t)
      (outcome ((lend user book c.payload.days).run.andThen fun x => .done (.ofLend x)) t) := by
  simp only [lend, Attempt.run_bind_andThen, Attempt.run_need_andThen, Attempt.run_ofExcept_andThen]
  unfold lendChecks
  cases reads : t.desk.faults.failReads with
  | true =>
    rw [outcome_findBook_of_fault reads]
    exact .stop (by simp) rfl
  | false =>
    rw [outcome_findBook reads]
    apply Follows.pass rfl
    cases there : t.desk.shelf.find? book with
    | none => exact .stop (by simp) rfl
    | some found =>
      refine .pass ⟨found, rfl⟩ ?_
      by_cases few : found.availableCopies < 1
      · simp only [Book.takeCopy_of_lt few]
        apply Follows.stop _ rfl
        rintro ⟨other, same, copies⟩
        cases same
        omega
      · have copies : 1 ≤ found.availableCopies := by omega
        simp only [Book.takeCopy_of_le copies]
        refine .pass ⟨found, rfl, copies⟩ ?_
        rw [outcome_hasActiveLoan]
        cases free : t.desk.ledger.hasActive user book with
        | true => exact .stop (not_not_intro ((Ledger.hasActive_iff _ _ _).mp free)) rfl
        | false =>
          refine .pass (fun active => by simp [(Ledger.hasActive_iff _ _ _).mpr active] at free) ?_
          simp only [Bool.false_eq_true, if_false, Attempt.run_bind_andThen, outcome_readClock,
            Attempt.run_ofExcept_andThen]
          by_cases within : (t.readings 0).seconds + resolveLoanDays c.payload.days * 86400 ≤ Time.latest
          · obtain ⟨draft, drafted⟩ := LoanDraft.exists_of_open? user book within
            apply Follows.pass within
            -- The book to write is the one that was found, under its own number.
            have kept : t.desk.shelf.find? found.id = some found := by
              rw [Shelf.id_of_find? there, there]
            have uncreated : (Errand.borrow c).Leaves t .loanCreation t.desk := rfl
            have unwritten : (Errand.borrow c).Leaves t .inventoryWrite
                { t.desk with ledger := (t.desk.ledger.create draft).2 } :=
              ⟨user, book, draft, named, wanted, drafted, rfl⟩
            have rest := store_follows draft book (found.withCopies (found.availableCopies - 1))
              (t := ⟨t.desk, fun n => t.readings (n + 1)⟩) kept uncreated unwritten
            simp only [Attempt.run_bind_andThen] at rest
            simp only [drafted]
            exact rest
          · simp only [LoanDraft.open?_of_lt user book (Int.not_le.mp within)]
            exact .stop within rfl

/-- The copy is put back unless the books fail. -/
theorem restock_follows (book : BookId) (t : Timed) (served : Served)
    {k : Except Failure (Option Int) → Procedure Verdict} {left_ : Step → Desk → Prop}
    (unread : left_ .bookRead t.desk) (unwritten : left_ .inventoryWrite t.desk)
    (fails : ∀ f t, outcome (k (.error f)) t = (.error f, t))
    (succeeds : ∀ remaining t, outcome (k (.ok remaining)) t = (.ok served, t)) :
    Follows
      [⟨.bookRead, t.desk.faults.failReads = false, .bookStore Desk.booksUnavailable⟩,
        ⟨.inventoryWrite, ∀ found, t.desk.shelf.find? book = some found →
          found.availableCopies < found.totalCopies → t.desk.faults.failUpdates = false,
          .bookStore Desk.booksUnavailable⟩] left_
      (outcome ((restock book).run.andThen k) t) := by
  simp only [restock, Attempt.run_bind_andThen]
  cases reads : t.desk.faults.failReads with
  | true =>
    rw [outcome_findBook_of_fault reads, fails]
    exact .stop (by simp) unread
  | false =>
    rw [outcome_findBook reads]
    apply Follows.pass rfl
    cases there : t.desk.shelf.find? book with
    | none =>
      simp only [Attempt.run_bind_andThen, outcome_note]
      exact .pass (by simp) (by rw [outcome_pure, succeeds]; exact .finish _ _)
    | some found =>
      by_cases full : found.totalCopies ≤ found.availableCopies
      · simp only [Book.restockCopy_of_le full, Attempt.run_bind_andThen, outcome_note]
        refine .pass ?_ (by rw [outcome_pure, succeeds]; exact .finish _ _)
        intro other same room
        cases same
        omega
      · have room : found.availableCopies < found.totalCopies := by omega
        simp only [Book.restockCopy_of_lt room, Attempt.run_bind_andThen]
        cases updates : t.desk.faults.failUpdates with
        | true =>
          rw [outcome_saveBook_of_fault updates, fails]
          refine .stop (fun needless => ?_) unwritten
          exact absurd (needless found rfl room) (by simp)
        | false =>
          have kept : t.desk.shelf.find? found.id = some found := by
            rw [Shelf.id_of_find? there, there]
          rw [outcome_saveBook (b := { found with availableCopies := found.availableCopies + 1 }) kept
            updates]
          exact .pass (fun _ _ _ => rfl) (by rw [outcome_pure, succeeds]; exact .finish _ _)

/-- A user that the command names is compared with the owner. -/
theorem checkOwner_follows {loan : Loan} {user : Option UserId} {t : Timed} {checks : List Check}
    {k : Except Failure Unit → Procedure Verdict} {left_ : Step → Desk → Prop}
    (disowned : left_ .owner t.desk) (fails : ∀ f, outcome (k (.error f)) t = (.error f, t))
    (passes : (∀ named, user = some named → named = loan.userId) →
      Follows checks left_ (outcome (k (.ok ())) t)) :
    Follows (ownerChecks loan user ++ checks) left_
      (outcome ((checkOwner loan.id loan user).run.andThen k) t) := by
  cases user with
  | none => exact passes (by simp)
  | some user =>
    by_cases owner : user = loan.userId
    · simp only [checkOwner, if_pos owner]
      exact .pass owner (passes (by simpa using owner))
    · simp only [checkOwner, if_neg owner]
      have refused := fails (.ownershipMismatch loan.id loan.userId user)
      show Follows _ _ (outcome (k (.error (.ownershipMismatch loan.id loan.userId user))) t)
      rw [refused]
      exact .stop owner disowned

/-- Settling goes by its checks. -/
theorem settle_follows {c : Command} {id : LoanId} (named : c.payload.loanId = some id) (t : Timed) :
    Follows (settleChecks id c.payload.userId t) ((Errand.giveBack c).Leaves t)
      (outcome ((settle id c.payload.userId).run.andThen fun x => .done (.ofSettle x)) t) := by
  simp only [settle, Attempt.run_bind_andThen, Attempt.run_need_andThen, outcome_findLoan]
  unfold settleChecks
  cases there : t.desk.ledger.find? id with
  | none => exact .stop (by simp) rfl
  | some loan =>
    obtain rfl : loan.id = id := (Ledger.find?_eq_some_iff.mp there).2
    refine .pass ⟨loan, rfl⟩ (checkOwner_follows rfl (fun _ => rfl) fun owner => ?_)
    unfold returnChecks
    cases borrowed : loan.isBorrowed with
    | false =>
      -- A loan that is not borrowed passes the checks that are for borrowed ones.
      have past : loan.status ≠ .borrowed := by simpa [Loan.isBorrowed] using borrowed
      exact .pass (absurd · past) (.pass (absurd · past) (.pass (absurd · past) (.finish _ _)))
    | true =>
      have status : loan.status = .borrowed := by simpa [Loan.isBorrowed] using borrowed
      simp only [status, true_imp_iff, if_true, Attempt.run_bind_andThen, outcome_readClock]
      rw [outcome_markReturned (t := ⟨t.desk, fun n => t.readings (n + 1)⟩) there borrowed]
      -- Whatever goes wrong from here on, the loan is settled.
      have settled : (Errand.giveBack c).Leaves t .race (t.settle loan (t.readings 0)).desk :=
        ⟨loan, named, there, owner, borrowed, rfl⟩
      cases lost : t.desk.faults.loseNextReturn with
      | true => exact .stop (by simp) settled
      | false =>
        apply Follows.pass rfl
        simp only [Bool.not_false, if_true, Attempt.run_bind_andThen]
        exact restock_follows loan.bookId (Timed.settle ⟨t.desk, _⟩ loan _)
          (.givenBack (.returned (loan.settled (t.readings 0)))) settled settled (fun _ _ => rfl)
          fun _ _ => rfl

/-! ## Whole calls -/

/-- A call that runs alone at a timed desk: its answer, and the desk afterwards. -/
def Errand.callAt (e : Errand) (t : Timed) : Except Failure Served × Timed :=
  (e.procedure recordingSink).run Timed.answer t

/-- What is done after the gate is left does not change the answer, and a failure has no news. -/
theorem Follows.leave {checks : List Check} {left_ : Step → Desk → Prop} {p : Procedure Verdict}
    {t : Timed} (h : Follows checks left_ (outcome p t)) :
    Follows checks left_ ((Errand.behindGate recordingSink p).run Timed.answer t) := by
  rw [Errand.behindGate, Procedure.run_andThen]
  unfold outcome at h
  cases verdict : (p.run Timed.answer t).1 with
  | failed f =>
    rw [verdict] at h
    exact h
  | _ =>
    rw [verdict] at h
    exact h

/-- Every call goes by its checks. -/
theorem Errand.follows (e : Errand) (t : Timed) : Follows (e.checks t) (e.Leaves t) (e.callAt t) := by
  rw [Errand.callAt, Errand.procedure_eq]
  cases e with
  | borrow c =>
    simp only [checks, section?]
    cases named : c.payload.userId with
    | none => exact .stop (by simp) rfl
    | some user =>
      refine .pass rfl ?_
      cases wanted : c.payload.bookId with
      | none => exact .stop (by simp) rfl
      | some book => exact .pass rfl (lend_follows named wanted t).leave
  | giveBack c =>
    simp only [checks, section?]
    cases named : c.payload.loanId with
    | none => exact .stop (by simp) rfl
    | some id => exact .pass rfl (settle_follows named t).leave

/-- A call that fails has come to a check, and leaves the desk as that check has it. -/
theorem Errand.stops_of_error (e : Errand) {t : Timed} {f : Failure}
    (failed : (e.callAt t).1 = .error f) :
    ∃ check, FirstFailing (e.checks t) check ∧ f = check.failure ∧
      e.Leaves t check.step (e.callAt t).2.desk := by
  have goes := e.follows t
  generalize e.callAt t = out at goes failed
  obtain ⟨r, t'⟩ := out
  cases failed
  exact goes

/-- At a desk with its own clock a call comes out as at the timed desk, and leaves what it leaves there,
but for the clock. -/
theorem Errand.call_desk (e : Errand) (d : Desk) :
    ∃ clock, (e.procedure recordingSink).run Desk.answer d =
      ((e.callAt d.timed).1, { (e.callAt d.timed).2.desk with clock }) := by
  obtain ⟨clock, -, same⟩ := Timed.run_desk (e.procedure recordingSink) d d.clock
  exact ⟨clock, same⟩

/-- The check is about what the stores do, not about what they hold or what the command says. -/
def Step.isTransient : Step → Bool
  | .bookRead | .loanCreation | .race | .inventoryWrite => true
  | _ => false

/-- The failures of checks about what the stores do are the transient ones. -/
def Check.Sorted (check : Check) : Prop :=
  check.failure.kind = .transient ↔ check.step.isTransient = true

theorem lendChecks_sorted (user : UserId) (book : BookId) (days : Option Int) (t : Timed) :
    ∀ check ∈ lendChecks user book days t, check.Sorted := by
  simp [lendChecks, Check.Sorted, Failure.kind, Step.isTransient]

theorem settleChecks_sorted (id : LoanId) (user : Option UserId) (t : Timed) :
    ∀ check ∈ settleChecks id user t, check.Sorted := by
  unfold settleChecks
  cases t.desk.ledger.find? id with
  | none => simp [Check.Sorted, Failure.kind, Step.isTransient]
  | some loan =>
    cases user <;> simp [ownerChecks, returnChecks, Check.Sorted, Failure.kind, Step.isTransient]

theorem Errand.checks_sorted (e : Errand) (t : Timed) : ∀ check ∈ e.checks t, check.Sorted := by
  cases e with
  | borrow c =>
    simp only [checks, List.forall_mem_cons]
    refine ⟨by simp [Check.Sorted, Failure.kind, Step.isTransient],
      by simp [Check.Sorted, Failure.kind, Step.isTransient], ?_⟩
    cases c.payload.userId with
    | none => simp
    | some user =>
      cases c.payload.bookId with
      | none => simp
      | some book => exact lendChecks_sorted user book c.payload.days t
  | giveBack c =>
    simp only [checks, List.forall_mem_cons]
    refine ⟨by simp [Check.Sorted, Failure.kind, Step.isTransient], ?_⟩
    cases c.payload.loanId with
    | none => simp
    | some id => exact settleChecks_sorted id c.payload.userId t

theorem settleChecks_ne_loanCreation (id : LoanId) (user : Option UserId) (t : Timed) :
    ∀ check ∈ settleChecks id user t, check.step ≠ .loanCreation := by
  unfold settleChecks
  cases t.desk.ledger.find? id with
  | none => simp
  | some loan => cases user <;> simp [ownerChecks, returnChecks]

/-- A call to return creates no loan. -/
theorem Errand.ne_loanCreation_of_giveBack (c : Command) (t : Timed) :
    ∀ check ∈ (Errand.giveBack c).checks t, check.step ≠ .loanCreation := by
  simp only [checks, List.forall_mem_cons]
  refine ⟨by simp, ?_⟩
  cases c.payload.loanId with
  | none => simp
  | some id => exact settleChecks_ne_loanCreation id c.payload.userId t

/-- A call that stops at a check about the command, or about what the stores hold, leaves everything as
it was. -/
theorem Errand.Leaves.unchanged {e : Errand} {t : Timed} {step : Step} {d : Desk}
    (leaves : e.Leaves t step d) (lasting : step.isTransient = false) : d = t.desk := by
  cases step with
  | bookRead | loanCreation | race | inventoryWrite => cases lasting
  | _ => cases e <;> exact leaves

/-- Whatever the command, the stores, the faults and the readings of the clock: a call succeeds exactly
if every check is passed, and otherwise its failure is that of the first check that is not. The failure
is transient exactly if that check is about what the stores do, which means that a store did not answer,
a settling was lost or the book was gone when it was written. -/
theorem failure_of_checks (e : Errand) (t : Timed) :
    ((∃ served, (e.callAt t).1 = .ok served) ↔ ∀ check ∈ e.checks t, check.passes) ∧
      ∀ f, (e.callAt t).1 = .error f ↔
        ∃ check, FirstFailing (e.checks t) check ∧ f = check.failure ∧
          (f.kind = .transient ↔ check.step.isTransient = true) ∧
          (f.kind = .transient ↔ (∃ loan, f = .returnRace loan) ∨
            (∃ book, f = .inventoryUpdateRejected book) ∨ (∃ error, f = .bookStore error) ∨
            ∃ error, f = .loanStore error) := by
  have goes := e.follows t
  refine ⟨goes.ok_iff, fun f => ?_⟩
  rw [goes.error_iff]
  constructor
  · rintro ⟨check, first, rfl⟩
    refine ⟨check, first, rfl, e.checks_sorted t _ first.mem, ?_⟩
    cases check.failure <;> simp [Failure.kind]
  · rintro ⟨check, first, why, -⟩
    exact ⟨check, first, why⟩

end Lending

end Circulation
