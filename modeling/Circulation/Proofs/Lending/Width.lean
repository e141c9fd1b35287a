/- # Circulation.Proofs.Lending.Width -- what the desk tells can be written down

The numbers of a message have sixty-four bits. Where the books, the loans and the commands are that
small, a call keeps them so: it takes a copy only from a shelf that has one, puts one back only where
there is room, and takes every other number from a command or a store. Only the numbers of loans grow,
and as long as they have not run out every event fits into a message (`Widens`).
-/
import Circulation.Proofs.Lending.Report
import Circulation.Proofs.Lending.Round
import Circulation.Proofs.Wire.Spelling

namespace Circulation

open Time (Instant)

/-! ## Stores that fit -/

theorem Book.Fits.take {b : Book} (fits : b.Fits) (copies : 1 ≤ b.availableCopies) :
    (b.withCopies (b.availableCopies - 1)).Fits := by
  obtain ⟨id, total, least, most⟩ := fits
  refine ⟨id, total, ?_, ?_⟩
  · show _ ≤ b.availableCopies - 1
    omega
  · show b.availableCopies - 1 < _
    omega

theorem Book.Fits.restock {b : Book} (fits : b.Fits) (room : b.availableCopies < b.totalCopies) :
    (b.withCopies (b.availableCopies + 1)).Fits := by
  obtain ⟨id, ⟨least, most⟩, least', most'⟩ := fits
  refine ⟨id, ⟨least, most⟩, ?_, ?_⟩
  · show _ ≤ b.availableCopies + 1
    omega
  · show b.availableCopies + 1 < _
    omega

theorem Loan.Fits.settled {l : Loan} (fits : l.Fits) (at_ : Instant) : (l.settled at_).Fits :=
  ⟨fits.id, fits.user, fits.book⟩

/-- All books and loans fit. -/
structure Stores.Fits (st : Stores) : Prop where
  books : ∀ id b, st.shelf.find? id = some b → b.Fits
  loans : ∀ id l, st.ledger.find? id = some l → l.Fits

namespace Stores.Fits

variable {st : Stores}

theorem putBook (fits : st.Fits) {b : Book} (new : b.Fits) :
    Stores.Fits { st with shelf := st.shelf.put b } := by
  refine ⟨fun id other there => ?_, fits.loans⟩
  rw [Shelf.find?_put] at there
  split at there
  · cases there
    exact new
  · exact fits.books id other there

theorem putLoan (fits : st.Fits) {l : Loan} (new : l.Fits) (next : Int) :
    Stores.Fits { st with ledger := ⟨st.ledger.loans.put l, next⟩ } := by
  refine ⟨fits.books, fun id other there => ?_⟩
  rw [Ledger.find?_put] at there
  split at there
  · cases there
    exact new
  · exact fits.loans id other there

end Stores.Fits

namespace Lending

/-! ## Calls that keep them so -/

/-- The command that is carried out. -/
def Errand.command : Errand → Command
  | borrow c | giveBack c => c

/-- The records of the deed fit. -/
def Deed.Fits : Deed → Prop
  | nothing _ => True
  | opened loan | settled loan => loan.Fits
  | lent loan book | restocked loan book => loan.Fits ∧ book.Fits

/-- The number for the next loan is in the range of loans' numbers or above it, and until it is above,
everything fits. -/
structure Within (deed : Deed) (st : Stores) : Prop where
  least : -9223372036854775808 ≤ st.ledger.nextId
  fits : st.ledger.nextId < 9223372036854775808 → deed.Fits ∧ st.Fits

theorem Advance.nextId_le {e : Errand} {deed deed' : Deed} {st st' : Stores}
    (a : Advance e deed st deed' st') : st.ledger.nextId ≤ st'.ledger.nextId := by
  cases a with
  | lend =>
    show st.ledger.nextId ≤ st.ledger.nextId + 1
    omega
  | _ => exact Int.le_refl _

theorem Advance.within {e : Errand} {deed deed' : Deed} {st st' : Stores} (command : e.command.Fits)
    (a : Advance e deed st deed' st') (before : Within deed st) : Within deed' st' := by
  refine ⟨Int.le_trans before.least a.nextId_le, fun left_ => ?_⟩
  have below := Int.lt_of_le_of_lt a.nextId_le left_
  obtain ⟨deed_, stores⟩ := before.fits below
  cases a with
  | stay => exact ⟨deed_, stores⟩
  | read now => exact ⟨trivial, stores⟩
  | @lend c user book found draft now st call named wanted there copies free drafted =>
    subst call
    have owner : c.payload.userId = some draft.userId :=
      named.trans (congrArg some (LoanDraft.userId_of_open? drafted).symm)
    have subject : c.payload.bookId = some draft.bookId :=
      wanted.trans (congrArg some (LoanDraft.bookId_of_open? drafted).symm)
    have loan : (st.ledger.create draft).1.Fits :=
      ⟨⟨before.least, below⟩, command.user _ (congrArg (Option.map UserId.value) owner),
        command.book _ (congrArg (Option.map BookId.value) subject)⟩
    exact ⟨loan, stores.putLoan loan _⟩
  | take there copies =>
    have book := (stores.books _ _ there).take copies
    exact ⟨⟨deed_, book⟩, stores.putBook book⟩
  | @settle c id loan now st call named there owner borrowed =>
    have settled := (stores.loans id loan there).settled now
    exact ⟨settled, stores.putLoan settled _⟩
  | restock there room =>
    have book := (stores.books _ _ there).restock room
    exact ⟨⟨deed_, book⟩, stores.putBook book⟩

/-- What a call tells when it has left the gate fits. -/
theorem Exit.event_fits {may : Faults → Prop} {e : Errand} {deed : Deed} {st : Stores} {v : Verdict}
    (exit : Exit may e deed st v) (deed_ : deed.Fits) (stores : st.Fits) {event : Instant → Event}
    {notice : Notice} (news : v.news = some (event, notice)) (now : Instant) : (event now).Fits := by
  rcases exit.of_news (by simp [news]) with ⟨loan, book, rfl, rfl⟩ | ⟨loan, rfl, settled⟩
  · cases news
    obtain ⟨⟨id, user, title⟩, stock⟩ := deed_
    exact ⟨id, user, title, fun n eq => Option.some.inj eq ▸ stock.available⟩
  · cases news
    have loan_ : loan.Fits := by
      cases deed with
      | settled l =>
        cases settled
        exact deed_
      | restocked l b =>
        cases settled
        exact deed_.1
      | _ => cases settled
    refine ⟨loan_.id, loan_.user, loan_.book, fun n eq => ?_⟩
    obtain ⟨found, there, rfl⟩ := Option.map_eq_some_iff.mp eq
    exact (stores.books _ _ there).available

/-! ## Runs that keep them so -/

/-- From one moment to a later one, while commands that fit are carried out. Numbers for loans are used
up, and as long as there are some left everything fits, also the events in between. -/
structure Widens (d d' : Desk) : Prop where
  next : d.ledger.nextId ≤ d'.ledger.nextId
  told : ∃ news, d'.events = d.events ++ news ∧
    (Within (.nothing none) d.stores → Within (.nothing none) d'.stores ∧
      (d'.ledger.nextId < 9223372036854775808 → ∀ event ∈ news, event.Fits))

namespace Widens

theorem refl (d : Desk) : Widens d d :=
  ⟨Int.le_refl _, [], (List.append_nil _).symm, fun within => ⟨within, fun _ => List.forall_mem_nil _⟩⟩

theorem trans {d d' d'' : Desk} (first : Widens d d') (second : Widens d' d'') : Widens d d'' := by
  obtain ⟨next, news, told, fits⟩ := first
  obtain ⟨next', news', told', fits'⟩ := second
  refine ⟨Int.le_trans next next', news ++ news', by rw [told', told, List.append_assoc],
    fun within => ?_⟩
  obtain ⟨within', news_⟩ := fits within
  obtain ⟨within'', news'_⟩ := fits' within'
  refine ⟨within'', fun left_ => List.forall_mem_append.mpr ⟨news_ ?_, news'_ left_⟩⟩
  exact Int.lt_of_le_of_lt next' left_

end Widens

/-- A call that runs alone widens the desk. -/
theorem widens_of_call {e : Errand} (command : e.command.Fits) (d : Desk) :
    Widens d ((e.procedure recordingSink).run Desk.answer d).2 := by
  cases behind : e.section? with
  | error f =>
    rw [Errand.procedure_eq, behind]
    exact .refl d
  | ok p =>
    let K (deed : Deed) (st : Stores) : Prop := d.ledger.nextId ≤ st.ledger.nextId ∧
      (Within (.nothing none) d.stores → Within deed st)
    have kept : KeptBy e K := fun a before =>
      ⟨Int.le_trans before.1 a.nextId_le, fun start => a.within command (before.2 start)⟩
    obtain ⟨deed, v, now, ⟨next, within⟩, exit, -, events⟩ :=
      run_of_section behind d kept ⟨Int.le_refl _, id⟩
    refine ⟨next, _, events, fun start => ⟨⟨(within start).least, fun left_ => ?_⟩, fun left_ => ?_⟩⟩
    · exact ⟨trivial, ((within start).fits left_).2⟩
    · obtain ⟨deed_, stores⟩ := (within start).fits left_
      cases news : v.news with
      | none => exact List.forall_mem_nil _
      | some x => exact List.forall_mem_singleton.mpr (exit.event_fits deed_ stores news now)

/-! ## Jobs -/

/-- The numbers of a command have sixty-four bits; those of a message that can be read have anyway. -/
def Job.Fits : Job → Prop
  | call c => c.Fits
  | message _ => True

theorem widens_of_handle (policy : RetryPolicy) {c : Command} (command : c.Fits) (d : Desk) :
    Widens d ((Dispatcher.handle ⟨recordingSink, policy⟩ c).run Desk.answer d).2 := by
  rcases Dispatcher.known_or_unknown c with ⟨e, known⟩ | unknown
  · have fits : e.command.Fits := by
      cases e <;> obtain ⟨rfl, -⟩ := known <;> exact command
    rw [run_handle known]
    exact widens_of_call fits d
  · rw [Dispatcher.handle_of_unknown unknown]
    exact .refl d

theorem widens_of_job (policy : RetryPolicy) {job : Job} (fits : job.Fits) (d : Desk) :
    Widens d ((Dispatcher.carryOut ⟨recordingSink, policy⟩ job).run Desk.answer d).2 := by
  cases job with
  | call c => exact widens_of_handle policy fits d
  | message body =>
    show Widens d ((Dispatcher.dispatch ⟨recordingSink, policy⟩ body).run Desk.answer d).2
    rw [Dispatcher.dispatch]
    cases read : Command.decode? body with
    | none => exact .refl d
    | some c =>
      simp only [run_within]
      exact widens_of_handle policy (Command.of_decode? read).1 d

theorem widens_of_jobs (policy : RetryPolicy) {jobs : List Job} (fits : ∀ job ∈ jobs, job.Fits)
    (d : Desk) :
    Widens d ((jobs.mapM (Dispatcher.carryOut ⟨recordingSink, policy⟩)).run Desk.answer d).2 := by
  induction jobs generalizing d with
  | nil => exact .refl d
  | cons job rest ih =>
    obtain ⟨here, later⟩ := List.forall_mem_cons.mp fits
    rw [Procedure.run_mapM_cons]
    exact (widens_of_job policy here d).trans (ih later _)

end Lending

end Circulation
