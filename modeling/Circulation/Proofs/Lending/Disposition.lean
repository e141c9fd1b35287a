/- # Circulation.Proofs.Lending.Disposition -- what an answer tells about its effect

A call that runs alone goes along its course without anybody in between, so where it ends the stores
differ from those it began with by its deed alone (`Done`). If it succeeds, the exits leave few ways in
which verdict and deed go together. If it fails, it has come to the first of its checks that is not
passed, and this check decides what remains of the call (`FailsAt`): a loan whose stock could not be
written, a loan that is settled although its settling was lost or its copy could not be put back, and
nothing else. The policy turns the answer into the disposition. So a message that is set aside has
changed nothing; one that is acknowledged has changed nothing or has one complete loan or return behind
it; and one that is put back has sent no event, changed no book and left in the ledger what its check
says.
-/
import Circulation.Lending.Dispatch
import Circulation.Proofs.Lending.Checks
import Circulation.Proofs.Lending.Shift
import Circulation.Proofs.Tape

namespace Circulation

open Time (Instant)

theorem RetryPolicy.dispositionFor_ne_ack (policy : RetryPolicy) (f : Failure) :
    policy.dispositionFor f ≠ .ack := by
  cases policy <;> cases kind : f.kind <;> simp [dispositionFor, kind]

theorem RetryPolicy.kind_of_deadLetter {policy : RetryPolicy} {f : Failure}
    (aside : policy.dispositionFor f = .deadLetter) : f.kind = .permanent := by
  cases policy <;> cases kind : f.kind <;> simp [dispositionFor, kind] at aside ⊢

theorem RetryPolicy.dispositionFor_of_transient {f : Failure} (transient : f.kind = .transient)
    (policy : RetryPolicy) : policy.dispositionFor f = .requeue := by
  cases policy <;> simp [dispositionFor, transient]

/-! ## Differences between stores -/

namespace Shelf

/-- The same books, but for the copies of one on the shelf. -/
def Differs (s s' : Shelf) (book : Book) (copies : Int) : Prop :=
  s.find? book.id = some book ∧
    ∀ id, s'.find? id = if id = book.id then some (book.withCopies copies) else s.find? id

/-- One copy more of a book on the shelf, unless the book is missing or all its copies are there; and
the copies that are there then. -/
def Restocks (s s' : Shelf) (book : BookId) (remaining : Option Int) : Prop :=
  match s.find? book with
  | none => s' = s ∧ remaining = none
  | some found =>
    if found.availableCopies < found.totalCopies then
      s.Differs s' found (found.availableCopies + 1) ∧ remaining = some (found.availableCopies + 1)
    else s' = s ∧ remaining = some found.availableCopies

theorem differs_of_put {s s' : Shelf} {id : BookId} {book : Book} {copies : Int}
    (there : s.find? id = some book) (made : s' = s.put (book.withCopies copies)) :
    s.Differs s' book copies := by
  subst made
  have own : book.id = id := id_of_find? there
  refine ⟨by rw [own, there], fun other => ?_⟩
  rw [find?_put, Book.withCopies_id]
  by_cases same : other = book.id
  · rw [if_pos same, if_pos same.symm]
  · rw [if_neg same, if_neg (Ne.symm same)]

theorem restocks_of_missing {s s' : Shelf} {book : BookId} (gone : s.find? book = none)
    (same : s' = s) : s.Restocks s' book none := by
  rw [Restocks, gone]
  exact ⟨same, rfl⟩

theorem restocks_of_full {s s' : Shelf} {book : BookId} {found : Book}
    (there : s.find? book = some found) (full : found.totalCopies ≤ found.availableCopies)
    (same : s' = s) : s.Restocks s' book (some found.availableCopies) := by
  have no_room : ¬found.availableCopies < found.totalCopies := by omega
  rw [Restocks, there]
  show if _ then _ else _
  rw [if_neg no_room]
  exact ⟨same, rfl⟩

theorem restocks_of_room {s s' : Shelf} {book : BookId} {found : Book}
    (there : s.find? book = some found) (room : found.availableCopies < found.totalCopies)
    (made : s' = s.put (found.withCopies (found.availableCopies + 1))) :
    s.Restocks s' book (some (found.availableCopies + 1)) := by
  rw [Restocks, there]
  show if _ then _ else _
  rw [if_pos room]
  exact ⟨differs_of_put there made, rfl⟩

end Shelf

namespace Ledger

/-- One loan more, borrowed, under the next number. -/
structure Gains (l l' : Ledger) (loan : Loan) : Prop where
  borrowed : loan.status = .borrowed
  number : loan.id = ⟨l.nextId⟩
  fresh : l.find? loan.id = none
  found : ∀ id, l'.find? id = if id = loan.id then some loan else l.find? id
  next : l'.nextId = l.nextId + 1

/-- The same loans, but that a borrowed one is returned. -/
structure Settles (l l' : Ledger) (loan : Loan) (at_ : Instant) : Prop where
  there : l.find? loan.id = some loan
  borrowed : loan.status = .borrowed
  found : ∀ id, l'.find? id = if id = loan.id then some (loan.settled at_) else l.find? id
  next : l'.nextId = l.nextId

theorem gains_of_create {l l' : Ledger} (numbered : l.Numbered) {draft : LoanDraft}
    (made : l' = (l.create draft).2) : l.Gains l' (l.create draft).1 := by
  subst made
  exact ⟨rfl, rfl, numbered.find?_next, find?_put l _ _, rfl⟩

theorem settles_of_settle {l l' : Ledger} {loan : Loan} {at_ : Instant}
    (there : l.find? loan.id = some loan) (borrowed : loan.isBorrowed = true)
    (made : l' = l.settle loan at_) : l.Settles l' loan at_ := by
  subst made
  exact ⟨there, by simpa [Loan.isBorrowed] using borrowed, find?_put l _ _, rfl⟩

end Ledger

namespace Lending

/-! ## Deeds of a call that runs alone -/

/-- How the stores differ from those at the beginning, by what the call has done. -/
inductive Done (e : Errand) (st : Stores) : Deed → Stores → Prop
  | nothing (read : Option Instant) : Done e st (.nothing read) st
  | opened {c : Command} {draft : LoanDraft} {found : Book} (call : e = .borrow c)
      (named : c.payload.userId = some draft.userId) (wanted : c.payload.bookId = some draft.bookId)
      (there : st.shelf.find? draft.bookId = some found) :
      Done e st (.opened (st.ledger.create draft).1)
        { st with ledger := (st.ledger.create draft).2 }
  | lent {c : Command} {draft : LoanDraft} {found : Book} (call : e = .borrow c)
      (named : c.payload.userId = some draft.userId) (wanted : c.payload.bookId = some draft.bookId)
      (there : st.shelf.find? draft.bookId = some found) :
      Done e st
        (.lent (st.ledger.create draft).1 (found.withCopies (found.availableCopies - 1)))
        ⟨st.shelf.put (found.withCopies (found.availableCopies - 1)), (st.ledger.create draft).2⟩
  | settled {c : Command} {loan : Loan} (call : e = .giveBack c)
      (named : c.payload.loanId = some loan.id) (there : st.ledger.find? loan.id = some loan)
      (owner : ∀ user, c.payload.userId = some user → user = loan.userId)
      (borrowed : loan.isBorrowed = true) (at_ : Instant) :
      Done e st (.settled (loan.settled at_)) { st with ledger := st.ledger.settle loan at_ }
  | restocked {c : Command} {loan : Loan} {found : Book} (call : e = .giveBack c)
      (named : c.payload.loanId = some loan.id) (there : st.ledger.find? loan.id = some loan)
      (owner : ∀ user, c.payload.userId = some user → user = loan.userId)
      (borrowed : loan.isBorrowed = true) (at_ : Instant)
      (listed : st.shelf.find? loan.bookId = some found)
      (room : found.availableCopies < found.totalCopies) :
      Done e st (.restocked (loan.settled at_) (found.withCopies (found.availableCopies + 1)))
        ⟨st.shelf.put (found.withCopies (found.availableCopies + 1)), st.ledger.settle loan at_⟩

theorem Done.advance {e : Errand} {st₀ st st' : Stores} {deed deed' : Deed}
    (h : Done e st₀ deed st) (a : Advance e deed st deed' st') : Done e st₀ deed' st' := by
  cases a with
  | stay => exact h
  | read now =>
    cases h with
    | nothing r => exact .nothing (some now)
  | lend call named wanted there copies free drafted =>
    cases h with
    | nothing r =>
      have owner := LoanDraft.userId_of_open? drafted
      have subject := LoanDraft.bookId_of_open? drafted
      exact .opened call (owner ▸ named) (subject ▸ wanted) (subject ▸ there)
  | take there copies =>
    cases h with
    | opened call named wanted listed =>
      cases Option.some.inj (there.symm.trans listed)
      exact .lent call named wanted listed
  | settle call named there owner borrowed =>
    cases h with
    | nothing r =>
      have own := (Ledger.find?_eq_some_iff.mp there).2
      exact .settled call (own ▸ named) (own ▸ there) owner borrowed _
  | restock there room =>
    cases h with
    | settled call named found owner borrowed at_ =>
      exact .restocked call named found owner borrowed at_ there room

/-- The faults of a desk, or those with the loss of a return used up. -/
def FaultsOf (d : Desk) (s : Faults) : Prop :=
  s = d.faults ∨ s = { d.faults with loseNextReturn := false }

theorem lasting_faultsOf (d : Desk) : Lasting (FaultsOf d) := by
  rintro s (rfl | rfl)
  · exact .inr rfl
  · exact .inr rfl

/-- Every advance of the call keeps it. -/
abbrev KeptBy (e : Errand) (K : Deed → Stores → Prop) : Prop :=
  ∀ {deed deed' : Deed} {st st' : Stores}, Advance e deed st deed' st' → K deed st → K deed' st'

/-- A section that runs alone ends with a verdict that fits its deed, and keeps all along what every
advance keeps. -/
theorem Course.keeps {e : Errand} {d₀ : Desk} {K : Deed → Stores → Prop} (kept : KeptBy e K)
    {deed : Deed} {st : Stores} {p : Procedure Verdict} (c : Course (FaultsOf d₀) e deed st p)
    {d : Desk} (here : d.stores = st) (ok : FaultsOf d₀ d.faults) (so_far : K deed d.stores) :
    ∃ deed', K deed' (p.run Desk.answer d).2.stores ∧
      Exit (FaultsOf d₀) e deed' (p.run Desk.answer d).2.stores (p.run Desk.answer d).1 ∧
      (p.run Desk.answer d).2.events = d.events := by
  -- On the course. The faults stay of one kind.
  induction c generalizing d with
  | @done deed st v exit =>
    subst here
    exact ⟨deed, so_far, exit, rfl⟩
  | @ask deed st q next inner advance rest ih =>
    have same : (Desk.answer q d).2.events = d.events := Desk.events_answer inner d
    subst here
    have faults : FaultsOf d₀ (Desk.answer q d).2.faults := by
      rcases Desk.faults_answer q d with same | used
      · rw [same]
        exact ok
      · rw [used]
        exact lasting_faultsOf d₀ _ ok
    obtain ⟨deed', done_, exit, events⟩ :=
      ih d rfl ok rfl faults (kept (advance d rfl ok) so_far)
    exact ⟨deed', done_, exit, events.trans same⟩

/-! ## Effects of a call -/

/-- Books, loans, next number and events are as they were. -/
structure Unchanged (d d' : Desk) : Prop where
  shelf : d'.shelf = d.shelf
  ledger : d'.ledger = d.ledger
  events : d'.events = d.events

/-- One complete loan: the one that the command asks for, a copy less on the shelf, and its event. -/
def Borrows (c : Command) (d d' : Desk) : Prop :=
  ∃ (loan : Loan) (found : Book) (now : Instant),
    c.payload.userId = some loan.userId ∧ c.payload.bookId = some loan.bookId ∧
    d.ledger.Gains d'.ledger loan ∧ found.id = loan.bookId ∧
    d.shelf.Differs d'.shelf found (found.availableCopies - 1) ∧
    d'.events = d.events ++ [.requested loan (found.availableCopies - 1) now]

/-- One complete return: of the loan that the command names, a copy more on the shelf unless it has
no room for it, and its event. -/
def Returns (c : Command) (d d' : Desk) : Prop :=
  ∃ (loan : Loan) (at_ now : Instant) (remaining : Option Int),
    c.payload.loanId = some loan.id ∧ d.ledger.Settles d'.ledger loan at_ ∧
    d.shelf.Restocks d'.shelf loan.bookId remaining ∧
    d'.events = d.events ++ [.returned (loan.settled at_) remaining now]

/-- The command names a loan that is not borrowed any more. -/
def NamesSettled (c : Command) (d : Desk) : Prop :=
  ∃ loan : Loan, c.payload.loanId = some loan.id ∧ d.ledger.find? loan.id = some loan ∧
    loan.isBorrowed = false

/-- What has become of the ledger by the check that a call has come to. A call to borrow that cannot
write the stock has left the loan that it asks for. A call to return whose settling is lost, or that
cannot put the copy back, has left the loan that it names, settled. At every other check the ledger is
as it was. -/
def Remains (e : Errand) (step : Step) (l l' : Ledger) : Prop :=
  match e, step with
  | .borrow c, .inventoryWrite => ∃ loan : Loan, c.payload.userId = some loan.userId ∧
      c.payload.bookId = some loan.bookId ∧ l.Gains l' loan
  | .giveBack c, .race | .giveBack c, .bookRead | .giveBack c, .inventoryWrite =>
      ∃ (loan : Loan) (at_ : Instant), c.payload.loanId = some loan.id ∧ l.Settles l' loan at_
  | _, _ => l' = l

/-- A call that runs alone fails at a check. This is the first one that is not passed, its failure is
the answer, no book is changed and nothing told, and the ledger is as the check has it. -/
structure FailsAt (e : Errand) (d : Desk) (check : Check) (d' : Desk) : Prop where
  first : FirstFailing (e.checks d.timed) check
  call : (e.procedure recordingSink).run Desk.answer d = (.error check.failure, d')
  shelf : d'.shelf = d.shelf
  events : d'.events = d.events
  ledger : Remains e check.step d.ledger d'.ledger

/-- What a call that runs alone answers, and what it leaves. -/
inductive Effect (e : Errand) (d : Desk) : Except Failure Served → Desk → Prop
  | failed {check : Check} {d' : Desk} (fails : FailsAt e d check d') :
      Effect e d (.error check.failure) d'
  | settledBefore {c : Command} {loan : Loan} {d' : Desk} (call : e = .giveBack c)
      (named : NamesSettled c d) (same : Unchanged d d') :
      Effect e d (.ok (.givenBack (.alreadySettled loan))) d'
  | borrows {c : Command} {loan : Loan} {d' : Desk} (call : e = .borrow c)
      (complete : Borrows c d d') : Effect e d (.ok (.lent loan)) d'
  | returns {c : Command} {loan : Loan} {d' : Desk} (call : e = .giveBack c)
      (complete : Returns c d d') : Effect e d (.ok (.givenBack (.returned loan))) d'

/-- After the gate is left the stores stay, and the news of the verdict goes out. -/
theorem run_epilogue (v : Verdict) (d : Desk) :
    ((v.epilogue recordingSink).run Desk.answer d).1 = v.answer ∧
      ((v.epilogue recordingSink).run Desk.answer d).2.stores = d.stores ∧
      ((v.epilogue recordingSink).run Desk.answer d).2.events =
        d.events ++ (v.news.map fun news => news.1 d.clock.read.1).toList := by
  cases v with
  | failed f => exact ⟨rfl, rfl, (List.append_nil _).symm⟩
  | settledBefore loan => exact ⟨rfl, rfl, (List.append_nil _).symm⟩
  | lent loan taken => exact ⟨rfl, rfl, rfl⟩
  | returned loan remaining => exact ⟨rfl, rfl, rfl⟩

/-- A call that runs alone and passes the gate: first its section, then the news of its verdict. -/
theorem run_of_section {e : Errand} {p : Procedure Verdict} (behind : e.section? = .ok p) (d : Desk)
    {K : Deed → Stores → Prop} (kept : KeptBy e K) (start : K (.nothing none) d.stores) :
    let out := (e.procedure recordingSink).run Desk.answer d
    ∃ (deed : Deed) (v : Verdict) (now : Instant), K deed out.2.stores ∧
      Exit (FaultsOf d) e deed out.2.stores v ∧ out.1 = v.answer ∧
      out.2.events = d.events ++ (v.news.map fun news => news.1 now).toList := by
  let q := p.run Desk.answer d
  have whole : (e.procedure recordingSink).run Desk.answer d =
      (q.1.epilogue recordingSink).run Desk.answer q.2 := by
    rw [Errand.procedure_eq, behind]
    exact Procedure.run_andThen Desk.answer p _ d
  obtain ⟨deed, keeps, exit, events⟩ :=
    (section_course (FaultsOf d) behind none d.stores).keeps kept rfl (.inl rfl) start
  obtain ⟨answered, stores, recorded⟩ := run_epilogue q.1 q.2
  rw [whole]
  refine ⟨deed, q.1, q.2.clock.read.1, ?_, ?_, answered, ?_⟩
  · rw [stores]
    exact keeps
  · rw [stores]
    exact exit
  · rw [recorded, events]

theorem effect_of_exit {e : Errand} {d d' : Desk} {deed : Deed} {st : Stores} {v : Verdict}
    {served : Served} (numbered : d.ledger.Numbered) (done_ : Done e d.stores deed st)
    (exit : Exit (FaultsOf d) e deed st v) (succeeds : v.answer = .ok served) (stores : d'.stores = st)
    {now : Instant} (events : d'.events = d.events ++ (v.news.map fun news => news.1 now).toList) :
    Effect e d (.ok served) d' := by
  have shelf : d'.shelf = st.shelf := congrArg Stores.shelf stores
  have ledger : d'.ledger = st.ledger := congrArg Stores.ledger stores
  cases exit with
  | refused | unreachable | stockUnwritten | raceLost | notRestocked => cases succeeds
  | @settledBefore c id loan r st call named there owner past =>
    cases succeeds
    cases done_ with
    | nothing r =>
      obtain rfl : loan.id = id := (Ledger.find?_eq_some_iff.mp there).2
      have quiet : d'.events = d.events := events.trans (List.append_nil _)
      exact .settledBefore call ⟨loan, named, there, past⟩ ⟨shelf, ledger, quiet⟩
  | lent =>
    cases succeeds
    cases done_ with
    | @lent c draft found call named wanted there =>
      have gains : d.ledger.Gains d'.ledger _ := Ledger.gains_of_create numbered ledger
      have differs : d.shelf.Differs d'.shelf found _ := Shelf.differs_of_put there shelf
      exact .borrows call ⟨(d.ledger.create draft).1, found, now, named, wanted, gains,
        Shelf.id_of_find? there, differs, events⟩
  | bookGone gone =>
    cases succeeds
    cases done_ with
    | @settled c loan call named there owner borrowed at_ =>
      have settles : d.ledger.Settles d'.ledger loan at_ :=
        Ledger.settles_of_settle there borrowed ledger
      exact .returns call ⟨loan, at_, now, none, named, settles,
        Shelf.restocks_of_missing gone shelf, events⟩
  | @fullyStocked _ found _ listed full =>
    cases succeeds
    cases done_ with
    | @settled c loan call named there owner borrowed at_ =>
      have settles : d.ledger.Settles d'.ledger loan at_ :=
        Ledger.settles_of_settle there borrowed ledger
      exact .returns call ⟨loan, at_, now, some found.availableCopies, named, settles,
        Shelf.restocks_of_full listed full shelf, events⟩
  | restocked =>
    cases succeeds
    cases done_ with
    | @restocked c loan found call named there owner borrowed at_ listed room =>
      have settles : d.ledger.Settles d'.ledger loan at_ :=
        Ledger.settles_of_settle there borrowed ledger
      exact .returns call ⟨loan, at_, now, some (found.availableCopies + 1), named, settles,
        Shelf.restocks_of_room listed room shelf, events⟩

/-- What a call leaves at a check, as a difference of stores. -/
theorem Errand.Leaves.remains {e : Errand} {t : Timed} {step : Step} {d : Desk}
    (leaves : e.Leaves t step d) (numbered : t.desk.ledger.Numbered) :
    d.shelf = t.desk.shelf ∧ d.events = t.desk.events ∧ Remains e step t.desk.ledger d.ledger := by
  have unchanged (same : d = t.desk) : d.shelf = t.desk.shelf ∧ d.events = t.desk.events ∧
      d.ledger = t.desk.ledger := by
    rw [same]
    exact ⟨rfl, rfl, rfl⟩
  cases e with
  | borrow c =>
    cases step with
    | inventoryWrite =>
      obtain ⟨user, book, draft, named, wanted, drafted, rfl⟩ := leaves
      have owner := congrArg some (LoanDraft.userId_of_open? drafted).symm
      have subject := congrArg some (LoanDraft.bookId_of_open? drafted).symm
      exact ⟨rfl, rfl, (t.desk.ledger.create draft).1, named.trans owner, wanted.trans subject,
        Ledger.gains_of_create numbered rfl⟩
    | _ => exact unchanged leaves
  | giveBack c =>
    cases step with
    | race | bookRead | inventoryWrite =>
      obtain ⟨loan, named, there, -, borrowed, rfl⟩ := leaves
      exact ⟨rfl, rfl, loan, _, named, Ledger.settles_of_settle there borrowed rfl⟩
    | _ => exact unchanged leaves

/-- A call that fails alone at a desk has come to a check, and leaves the desk as the check has it. -/
theorem failsAt_of_error {e : Errand} {d : Desk} (numbered : d.ledger.Numbered) {f : Failure}
    (failed : ((e.procedure recordingSink).run Desk.answer d).1 = .error f) :
    ∃ check, f = check.failure ∧
      FailsAt e d check ((e.procedure recordingSink).run Desk.answer d).2 := by
  obtain ⟨clock, timed⟩ := e.call_desk d
  rw [timed] at failed ⊢
  obtain ⟨check, first, rfl, leaves⟩ := e.stops_of_error failed
  obtain ⟨shelf, events, ledger⟩ := leaves.remains numbered
  exact ⟨check, rfl, first, by rw [timed, failed], shelf, events, ledger⟩

/-- A call that runs alone has the effect that its answer tells. -/
theorem effect_of_call {d : Desk} (numbered : d.ledger.Numbered) (e : Errand) :
    Effect e d ((e.procedure recordingSink).run Desk.answer d).1
      ((e.procedure recordingSink).run Desk.answer d).2 := by
  cases answered : ((e.procedure recordingSink).run Desk.answer d).1 with
  | error f =>
    obtain ⟨check, rfl, fails⟩ := failsAt_of_error numbered answered
    exact .failed fails
  | ok served =>
    cases behind : e.section? with
    | error f =>
      rw [Errand.procedure_eq, behind] at answered
      cases answered
    | ok p =>
      obtain ⟨deed, v, now, done_, exit, answer, events⟩ :=
        run_of_section behind d (K := Done e d.stores) (fun a h => h.advance a) (.nothing none)
      exact effect_of_exit numbered done_ exit (answer.symm.trans answered) rfl events

/-! ## Dispositions -/

/-- A desk takes no notice of what notices belong to. -/
theorem ignoresSpans_answer : Desk.answer.IgnoresSpans := fun _ _ _ _ => rfl

theorem run_within {α : Type} (span : Span) (p : Procedure α) (d : Desk) :
    (p.within span).run Desk.answer d = p.run Desk.answer d :=
  Procedure.run_within ignoresSpans_answer span p d

/-- The call is the one that a command of its kind leads to. -/
def Errand.Of (command : Command) : Errand → Prop
  | borrow c => c = command ∧ command.kind = .borrow
  | giveBack c => c = command ∧ command.kind = .giveBack

/-- What a disposition tells about a message with this command, or with none. -/
def Tells (policy : RetryPolicy) (command : Option Command) (d d' : Desk) : Disposition → Prop
  | .deadLetter => Unchanged d d'
  | .ack =>
    (Unchanged d d' ∧ (command = none ∨ ∃ c, command = some c ∧
      (c.kind = .unknown ∨ (c.kind = .giveBack ∧ NamesSettled c d)))) ∨
    ∃ c, command = some c ∧
      ((c.kind = .borrow ∧ Borrows c d d') ∨ (c.kind = .giveBack ∧ Returns c d d'))
  | .requeue => ∃ c e check, command = some c ∧ e.Of c ∧ FailsAt e d check d' ∧
      policy.dispositionFor check.failure = .requeue

/-- The disposition that an answer leads to. -/
def concluded (policy : RetryPolicy) : Except Failure Served → Disposition
  | .ok _ => .ack
  | .error f => policy.dispositionFor f

theorem run_conclude {α : Type} (dispatcher : Dispatcher) (x : Attempt Failure α) (g : α → Served)
    (d : Desk) :
    (dispatcher.conclude x).run Desk.answer d =
      (concluded dispatcher.policy
          ((x.run.andThen fun r => .done (r.map g)).run Desk.answer d).1,
        ((x.run.andThen fun r => .done (r.map g)).run Desk.answer d).2) := by
  rw [Procedure.run_andThen]
  show (x.run.andThen _).run Desk.answer d = _
  rw [Procedure.run_andThen]
  cases (x.run.run Desk.answer d).1 <;> rfl

theorem run_handle {dispatcher : Dispatcher} {c : Command} {e : Errand} (known : e.Of c) (d : Desk) :
    (dispatcher.handle c).run Desk.answer d =
      (concluded dispatcher.policy ((e.procedure dispatcher.emit).run Desk.answer d).1,
        ((e.procedure dispatcher.emit).run Desk.answer d).2) := by
  cases e with
  | borrow c' =>
    obtain ⟨rfl, kind⟩ := known
    rw [Dispatcher.handle, kind]
    exact run_conclude dispatcher _ _ d
  | giveBack c' =>
    obtain ⟨rfl, kind⟩ := known
    rw [Dispatcher.handle, kind]
    exact run_conclude dispatcher _ _ d

/-- What is set aside has failed for good, and then nothing remains of the call. -/
theorem FailsAt.unchanged {e : Errand} {d d' : Desk} {check : Check} (fails : FailsAt e d check d')
    (permanent : check.failure.kind = .permanent) : Unchanged d d' := by
  refine ⟨fails.shelf, ?_, fails.events⟩
  have remains := fails.ledger
  have sorted := e.checks_sorted d.timed check fails.first.mem
  rw [Check.Sorted, permanent] at sorted
  cases step : check.step with
  | bookRead | loanCreation | race | inventoryWrite => simp [step, Step.isTransient] at sorted
  | _ =>
    rw [step] at remains
    cases e <;> exact remains

theorem tells_of_effect {c : Command} {e : Errand} (known : e.Of c) (policy : RetryPolicy)
    {d d' : Desk} {r : Except Failure Served} (effect : Effect e d r d') :
    Tells policy (some c) d d' (concluded policy r) := by
  cases effect with
  | @failed check _ fails =>
    show Tells policy _ d d' (policy.dispositionFor check.failure)
    -- Set aside or put back, as the policy has it, but never acknowledged.
    cases answered : policy.dispositionFor check.failure with
    | deadLetter => exact fails.unchanged (RetryPolicy.kind_of_deadLetter answered)
    | requeue => exact ⟨c, e, check, rfl, known, fails, answered⟩
    | ack => exact absurd answered (policy.dispositionFor_ne_ack check.failure)
  | settledBefore call named same =>
    subst call
    obtain ⟨rfl, kind⟩ := known
    exact .inl ⟨same, .inr ⟨_, rfl, .inr ⟨kind, named⟩⟩⟩
  | borrows call complete =>
    subst call
    obtain ⟨rfl, kind⟩ := known
    exact .inr ⟨_, rfl, .inl ⟨kind, complete⟩⟩
  | returns call complete =>
    subst call
    obtain ⟨rfl, kind⟩ := known
    exact .inr ⟨_, rfl, .inr ⟨kind, complete⟩⟩

/-- Whatever the message, the policy, the stores, the faults and the clock: a message that is set aside
has changed nothing; one that is acknowledged has changed nothing, or one complete loan or one complete
return has happened. One that is put back has a call that failed at a check, as the policy answers it:
nothing is told and no book changed, its loan is left if the check is that of the write of the stock, the
loan that it names is left settled if it is a return that lost its settling or could not put the copy
back, and the ledger is as it was at every other check. -/
theorem tells_of_dispatch (policy : RetryPolicy) (message : Bytes) {d : Desk}
    (numbered : d.ledger.Numbered) :
    let out := (Dispatcher.dispatch ⟨recordingSink, policy⟩ message).run Desk.answer d
    Tells policy (Command.decode? message) d out.2 out.1 := by
  intro out
  show Tells policy _ d ((Dispatcher.dispatch _ message).run Desk.answer d).2 (Procedure.run _ _ _).1
  rw [Dispatcher.dispatch]
  cases Command.decode? message with
  | none => exact .inl ⟨⟨rfl, rfl, rfl⟩, .inl rfl⟩
  | some c =>
    dsimp only
    rw [run_within]
    have carried : ∀ e : Errand, e.Of c →
        Tells policy (some c) d ((Dispatcher.handle ⟨recordingSink, policy⟩ c).run Desk.answer d).2
          ((Dispatcher.handle ⟨recordingSink, policy⟩ c).run Desk.answer d).1 := by
      intro e known
      rw [run_handle known]
      exact tells_of_effect known policy (effect_of_call numbered e)
    -- A message of no known kind is acknowledged without a call.
    cases kind : c.kind with
    | borrow => exact carried (.borrow c) ⟨rfl, kind⟩
    | giveBack => exact carried (.giveBack c) ⟨rfl, kind⟩
    | unknown =>
      rw [Dispatcher.handle, kind]
      exact .inl ⟨⟨rfl, rfl, rfl⟩, .inr ⟨c, rfl, .inl kind⟩⟩

/-- The message to borrow the copy comes to a desk that cannot write its stock, and the loan is left. The
message to return the copy comes to a desk that loses the settling, and the loan is left settled. Both
messages are put back. -/
theorem tells_of_dispatch_oneCopy :
    let deliver := fun message => (Dispatcher.dispatch ⟨recordingSink, .deadLetterPermanent⟩ message).run
      Desk.answer
    let ask := Command.encode ⟨.borrow, "", none, ⟨some ⟨7⟩, some ⟨1⟩, none, none⟩⟩
    let bring := Command.encode ⟨.giveBack, "", none, ⟨none, none, none, some ⟨4⟩⟩⟩
    let unwritable : Desk := { oneCopy with faults := { Faults.none with failUpdates := true } }
    let losing : Desk :=
      { oneCopy with
        ledger := Ledger.empty.insert ⟨⟨4⟩, ⟨7⟩, ⟨1⟩, .epoch, .epoch, none, .borrowed⟩
        faults := { Faults.none with loseNextReturn := true } }
    ((deliver ask unwritable).1 = .requeue ∧ (deliver ask unwritable).2.ledger.out ⟨1⟩ = 1 ∧
      Tells .deadLetterPermanent (Command.decode? ask) unwritable (deliver ask unwritable).2
        (deliver ask unwritable).1) ∧
      (deliver bring losing).1 = .requeue ∧ (deliver bring losing).2.ledger.out ⟨1⟩ = 0 ∧
      Tells .deadLetterPermanent (Command.decode? bring) losing (deliver bring losing).2
        (deliver bring losing).1 := by
  intro deliver ask bring unwritable losing
  refine ⟨⟨by decide +kernel, by decide +kernel, ?_⟩, by decide +kernel, by decide +kernel, ?_⟩
  · exact tells_of_dispatch .deadLetterPermanent ask Ledger.numbered_empty
  · exact tells_of_dispatch .deadLetterPermanent bring (Ledger.numbered_empty.insert _)

end Lending

end Circulation
