/- # Circulation.Proofs.Lending.Catalogue -- edits of the catalogue beside the calls

The title of a book and the number of its copies in all are the business of the catalogue. It edits
them at any time and does not come to the gate. A call is not meant to change them, but it reads the
whole book, takes or adds a copy, and writes the whole book back (`Copying`). So a write always puts
back the entry that the call had read, whatever the catalogue has made of it meanwhile
(`read_before_of_write`). If no edit falls between the two, every entry is as the last edit left it; an
edit that does is undone (`entry_of_run`, `edit_undone_by_lending`).
-/
import Circulation.Proofs.Lending.Shift
import Circulation.Proofs.Pool.Thread
import Mathlib.Data.List.Induction

namespace Circulation

/-! ## Entries of the catalogue -/

/-- What the catalogue says about a book: its title, and how many copies there are in all. -/
structure Entry where
  title : String
  totalCopies : Int
deriving DecidableEq

/-- The entry of a book. -/
def Book.entry (b : Book) : Entry := ⟨b.title, b.totalCopies⟩

@[simp]
theorem Book.entry_withCopies (b : Book) (copies : Int) : (b.withCopies copies).entry = b.entry := rfl

/-- A new entry for one book. -/
structure Edit where
  book : BookId
  entry : Entry
deriving DecidableEq

namespace Edit

/-- The book with the new entry; its copies on the shelf stay. -/
def revise (e : Edit) (b : Book) : Book :=
  { b with title := e.entry.title, totalCopies := e.entry.totalCopies }

/-- The shelf after the edit. A book that is not in the catalogue cannot be edited. -/
def onShelf (e : Edit) (s : Shelf) : Shelf :=
  match s.find? e.book with
  | some b => s.put (e.revise b)
  | none => s

end Edit

namespace Shelf

/-- The entry of a book that is in the catalogue. -/
def entryOf? (s : Shelf) (book : BookId) : Option Entry := (s.find? book).map Book.entry

theorem entryOf?_put (s : Shelf) (b : Book) (book : BookId) :
    entryOf? (s.put b) book = if b.id = book then some b.entry else s.entryOf? book := by
  rw [entryOf?, find?_put]
  split <;> rfl

theorem entryOf?_of_find? {s : Shelf} {book : BookId} {b : Book} (there : s.find? book = some b) :
    s.entryOf? book = some b.entry := by
  rw [entryOf?, there]
  rfl

/-- An edit changes the entry of its book and no other. -/
theorem entryOf?_onShelf {s : Shelf} (e : Edit) {book : BookId} {entry : Entry}
    (registered : s.entryOf? book = some entry) :
    (e.onShelf s).entryOf? book = some (if e.book = book then e.entry else entry) := by
  unfold Edit.onShelf
  cases there : s.find? e.book with
  | none =>
    have other : e.book ≠ book := by
      rintro rfl
      simp [entryOf?, there] at registered
    simp [other, registered]
  | some b =>
    have own : (e.revise b).id = e.book := by
      show b.id = e.book
      exact id_of_find? there
    have new : (e.revise b).entry = e.entry := rfl
    simp only [entryOf?_put, own, new, registered]
    split <;> rfl

end Shelf

/-! ## What a call writes -/

/-- Reads or writes a book. -/
def Request.handlesBook : Request → Bool
  | .store (.findBook _) | .store (.saveBook _) => true
  | _ => false

/-- Only a write changes the shelf. -/
theorem Desk.shelf_answer (q : Request) (d : Desk) :
    (Desk.answer q d).2.shelf = d.shelf ∨
      ∃ b, q = .store (.saveBook b) ∧ (Desk.answer q d).2.shelf = d.shelf.put b := by
  cases q with
  | store c =>
    cases c with
    | findBook id => cases flag : d.faults.failReads <;> simp [Desk.answer, answerStore, flag]
    | createLoan draft => cases flag : d.faults.failCreates <;> simp [Desk.answer, answerStore, flag]
    | saveBook b =>
      simp only [Desk.answer, answerStore]
      split
      · exact .inl rfl
      · unfold Shelf.save
        split
        · exact .inr ⟨b, rfl, rfl⟩
        · exact .inl rfl
    | _ => exact .inl rfl
  | _ => exact .inl rfl

namespace Lending

/-- Whatever is answered, the procedure writes no book but the one that it has in hand, with another
number of copies on the shelf; it has in hand what it found last. -/
inductive Copying {α : Type} : Option Book → Procedure α → Prop
  | done (hand : Option Book) (a : α) : Copying hand (.done a)
  | find {hand : Option Book} {id : BookId}
      {next : Except StoreError (Option Book) → Procedure α}
      (fails : ∀ e, Copying hand (next (.error e)))
      (finds : ∀ found, Copying found (next (.ok found))) :
      Copying hand (.ask (.store (.findBook id)) next)
  | save {found : Book} {copies : Int} {next : Except StoreError Bool → Procedure α}
      (rest : ∀ a, Copying (some found) (next a)) :
      Copying (some found) (.ask (.store (.saveBook (found.withCopies copies))) next)
  | ask {hand : Option Book} {q : Request} {next : q.Answer → Procedure α}
      (other : q.handlesBook = false) (rest : ∀ a, Copying hand (next a)) :
      Copying hand (.ask q next)

namespace Copying

variable {α β : Type} {hand : Option Book}

/-- What is asked without the gate handles no book. -/
theorem of_public {p : Procedure α} (h : p.Public) (hand : Option Book) : Copying hand p := by
  induction h with
  | done a => exact .done hand a
  | @ask q next free _ ih =>
    refine .ask ?_ ih
    cases q with
    | store c => cases free
    | _ => rfl

/-- A call to the stores that handles no book. -/
theorem call {ε : Type} {c : StoreCall} {wrap : StoreError → ε}
    {k : Except ε c.Result → Procedure α} (other : (Request.store c).handlesBook = false)
    (h : ∀ r, Copying hand (k r)) :
    Copying hand ((Attempt.ofAnswer wrap (.request (.store c))).run.andThen k) := by
  refine .ask other fun a => ?_
  cases a with
  | ok a => exact h (.ok a)
  | error e => exact h (.error (wrap e))

theorem findBook {id : BookId} {k : Except Failure (Option Book) → Procedure α}
    (fails : ∀ f, Copying hand (k (.error f))) (finds : ∀ found, Copying found (k (.ok found))) :
    Copying hand ((Lending.findBook id).run.andThen k) :=
  .find (fun _ => fails _) (fun found => finds found)

theorem saveBook {found : Book} {copies : Int} {k : Except Failure Unit → Procedure α}
    (h : ∀ r, Copying (some found) (k r)) :
    Copying (some found) ((Lending.saveBook (found.withCopies copies)).run.andThen k) := by
  rw [Lending.saveBook, Attempt.run_bind_andThen]
  refine .save fun a => ?_
  rcases a with e | saved
  · exact h _
  · cases saved <;> exact h _

theorem note {n : Notice} {k : Except Failure Unit → Procedure α} (h : Copying hand (k (.ok ()))) :
    Copying hand ((Lending.note n).run.andThen k) := .ask rfl fun _ => h

theorem readClock {k : Except Failure Time.Instant → Procedure α}
    (h : ∀ now, Copying hand (k (.ok now))) :
    Copying hand ((Lending.readClock).run.andThen k) := .ask rfl h

/-- Lending writes the book that it has looked up, with one copy less. -/
theorem lend {user : UserId} {book : BookId} {days : Option Int}
    {k : Except Failure (Loan × Book) → Procedure α} (h : ∀ hand r, Copying hand (k r)) :
    Copying hand ((Lending.lend user book days).run.andThen k) := by
  simp only [Lending.lend, Attempt.run_bind_andThen, Attempt.run_need_andThen,
    Attempt.run_ofExcept_andThen]
  refine findBook (fun f => h _ _) fun found => ?_
  cases found with
  | none => exact h _ _
  | some found =>
    by_cases few : found.availableCopies < 1
    · simp only [Book.takeCopy_of_lt few]
      exact h _ _
    · simp only [Book.takeCopy_of_le (show 1 ≤ found.availableCopies by omega)]
      refine call rfl fun active => ?_
      rcases active with f | _ | _
      · exact h _ _
      · simp only [Bool.false_eq_true, if_false, Attempt.run_bind_andThen]
        refine readClock fun now => ?_
        simp only [Attempt.run_ofExcept_andThen]
        cases LoanDraft.open? user book days now with
        | error e => exact h _ _
        | ok draft =>
          refine call rfl fun loan => ?_
          cases loan with
          | error f => exact h _ _
          | ok loan =>
            simp only [run_noting_andThen]
            refine saveBook fun saved => ?_
            cases saved with
            | ok _ => exact h _ _
            | error f => exact .ask rfl fun _ => h _ _
      · exact h _ _

/-- Putting a copy back writes the book that was looked up, with one copy more. -/
theorem restock {book : BookId} {k : Except Failure (Option Int) → Procedure α}
    (h : ∀ hand r, Copying hand (k r)) : Copying hand ((Lending.restock book).run.andThen k) := by
  simp only [Lending.restock, Attempt.run_bind_andThen]
  refine findBook (fun f => h _ _) fun found => ?_
  cases found with
  | none =>
    simp only [Attempt.run_bind_andThen]
    exact note (h _ _)
  | some found =>
    by_cases full : found.totalCopies ≤ found.availableCopies
    · simp only [Book.restockCopy_of_le full, Attempt.run_bind_andThen]
      exact note (h _ _)
    · simp only [Book.restockCopy_of_lt (show found.availableCopies < found.totalCopies by omega),
        Attempt.run_bind_andThen]
      refine saveBook fun saved => ?_
      cases saved <;> exact h _ _

/-- Settling writes no book but in putting a copy back. -/
theorem settle {id : LoanId} {user : Option UserId}
    {k : Except Failure (ReturnOutcome × Option Int) → Procedure α}
    (h : ∀ hand r, Copying hand (k r)) :
    Copying hand ((Lending.settle id user).run.andThen k) := by
  simp only [Lending.settle, Attempt.run_bind_andThen, Attempt.run_need_andThen]
  refine call rfl fun loan => ?_
  rcases loan with f | _ | loan
  · exact h _ _
  · exact h _ _
  · -- Whoever may not settle the loan is refused without a request.
    have owned : ∀ k' : Except Failure Unit → Procedure α, (∀ r, Copying hand (k' r)) →
        Copying hand ((checkOwner id loan user).run.andThen k') := by
      intro k' h'
      cases user with
      | none => exact h' _
      | some user =>
        simp only [checkOwner]
        split <;> exact h' _
    refine owned _ fun r => ?_
    cases r with
    | error f => exact h _ _
    | ok _ =>
      cases loan.isBorrowed with
      | false =>
        simp only [Bool.false_eq_true, if_false, Attempt.run_bind_andThen]
        exact note (h _ _)
      | true =>
        simp only [if_true, Attempt.run_bind_andThen]
        refine readClock fun now => call rfl fun marked => ?_
        rcases marked with f | _ | _
        · exact h _ _
        · exact h _ _
        · simp only [if_true, Attempt.run_bind_andThen]
          refine restock fun hand remaining => ?_
          cases remaining <;> exact h _ _

/-- Every call copies what it has read. -/
theorem errand {emit : EventSink} (sink : ∀ ev, (emit ev).Public) (e : Errand) :
    Copying none (e.procedure emit) := by
  rw [Errand.procedure_eq]
  cases behind : e.section? with
  | error f => exact .done _ _
  | ok p =>
    refine .ask rfl fun _ => ?_
    have after : ∀ hand (v : Verdict),
        Copying hand (.ask .leaveGate fun _ => v.epilogue emit : Procedure _) :=
      fun hand v => .ask rfl fun _ => .of_public (v.epilogue_public sink) hand
    cases e with
    | borrow c =>
      simp only [Errand.section?] at behind
      split at behind
      · cases behind
      · cases behind
      · cases behind
        simp only [Errand.behindGate, Procedure.andThen_assoc]
        exact lend fun hand r => after hand _
    | giveBack c =>
      simp only [Errand.section?] at behind
      split at behind
      · cases behind
      · cases behind
        simp only [Errand.behindGate, Procedure.andThen_assoc]
        exact settle fun hand r => after hand _

/-- With an answer of a desk it goes on, with the same book in hand or with the one found there. -/
theorem of_ask {q : Request} {next : q.Answer → Procedure α} (c : Copying hand (.ask q next))
    (d : Desk) :
    ∃ hand', Copying hand' (next (Desk.answer q d).1) ∧
      (hand' = hand ∨ ∃ id, q = .store (.findBook id) ∧ hand' = d.shelf.find? id) := by
  cases c with
  | @find _ id _ fails finds =>
    simp only [Desk.answer, Desk.answerStore]
    split
    · exact ⟨hand, fails _, .inl rfl⟩
    · exact ⟨_, finds _, .inr ⟨id, rfl, rfl⟩⟩
  | save rest => exact ⟨_, rest _, .inl rfl⟩
  | ask other rest => exact ⟨hand, rest _, .inl rfl⟩

/-- It writes the book in hand, with another number of copies. -/
theorem of_save {b : Book} {next : Except StoreError Bool → Procedure α}
    (c : Copying hand (.ask (.store (.saveBook b)) next)) :
    ∃ found copies, hand = some found ∧ b = found.withCopies copies := by
  cases c with
  | save rest => exact ⟨_, _, rfl, rfl⟩
  | ask other => cases other

end Copying

/-! ## Runs with edits -/

/-- Something that happens in a run with edits: a move of the pool, or an edit of the catalogue, which
comes to no gate. -/
inductive Act where
  | move (m : Pool.Move Desk)
  | edit (e : Edit)

/-- An edit is a change that the surroundings make by themselves. -/
def Act.toMove : Act → Pool.Move Desk
  | move m => m
  | edit e => .change fun d => { d with shelf := e.onShelf d.shelf }

/-- The entry of a book as the act leaves it, if no call writes the book. -/
def Act.revised (book : BookId) (entry : Entry) : Act → Entry
  | move _ => entry
  | edit e => if e.book = book then e.entry else entry

/-- The moves leave the stores to the calls; everything may fail, and calls may be given up. -/
def Act.Allowed : Act → Prop
  | move m => Permitted (fun _ => True) True m
  | edit _ => True

section Runs

variable {start : Pool Desk (Except Failure Served)} {acts : List Act} {book : BookId}

/-- The pool after some acts. -/
def after (start : Pool Desk (Except Failure Served)) (acts : List Act) :
    Pool Desk (Except Failure Served) :=
  start.run Desk.answer (acts.map Act.toMove)

theorem after_snoc (start : Pool Desk (Except Failure Served)) (acts : List Act) (a : Act) :
    after start (acts ++ [a]) = (after start acts).move Desk.answer a.toMove := by
  simp only [after, Pool.run, List.map_append, List.foldl_append, List.map_cons, List.map_nil,
    List.foldl_cons, List.foldl_nil]

/-- The call at a place asked for this book at some step of the run, and this is what was there. -/
def ReadIn (start : Pool Desk (Except Failure Served)) (acts : List Act) (i : Nat) (found : Book) :
    Prop :=
  ∃ before between, acts = before ++ .move (.step i) :: between ∧
    (after start before).Asks i (.store (.findBook found.id)) ∧
    (after start before).world.shelf.find? found.id = some found

theorem ReadIn.snoc {i : Nat} {found : Book} (h : ReadIn start acts i found) (a : Act) :
    ReadIn start (acts ++ [a]) i found := by
  obtain ⟨before, between, rfl, asks, there⟩ := h
  exact ⟨before, between ++ [a], by simp, asks, there⟩

/-- Every call goes on as one that copies, with a book in hand that it has read in this run. -/
theorem copying_after {emit : EventSink} (sink : ∀ ev, (emit ev).Public) (errands : List Errand)
    (d : Desk) (acts : List Act) {i : Nat} {rest : Procedure (Except Failure Served)}
    (left_ : (after (pool emit errands d) acts).left? i = some rest) :
    ∃ hand, Copying hand rest ∧
      ∀ found, hand = some found → ReadIn (pool emit errands d) acts i found := by
  induction acts using List.reverseRecOn generalizing rest with
  | nil =>
    -- At the start every call is at its beginning and has nothing in hand.
    obtain ⟨t, here, eq⟩ := Option.bind_eq_some_iff.mp left_
    obtain ⟨r, named, rfl⟩ := Option.map_eq_some_iff.mp ((List.getElem?_map ..).symm.trans here)
    obtain ⟨e, -, rfl⟩ := Option.map_eq_some_iff.mp ((List.getElem?_map ..).symm.trans named)
    cases eq
    exact ⟨none, .errand sink e, fun found none_ => by cases none_⟩
  | append_singleton acts a ih =>
    rw [after_snoc] at left_
    rcases Pool.goes_on_of_move left_ with before | ⟨step, q, next, here, rfl⟩
    · obtain ⟨hand, copying, read⟩ := ih before
      exact ⟨hand, copying, fun found eq => (read found eq).snoc a⟩
    · have before : (after (pool emit errands d) acts).left? i = some (.ask q next) :=
        Pool.left?_of_ready here
      obtain ⟨hand, copying, read⟩ := ih before
      obtain ⟨hand', onward, same | ⟨id, rfl, found_eq⟩⟩ :=
        copying.of_ask (after (pool emit errands d) acts).world
      · exact ⟨hand', onward, fun found eq => (read found (same ▸ eq)).snoc a⟩
      · -- It has just read the book, in the step that was taken last.
        refine ⟨hand', onward, fun found eq => ⟨acts, [], ?_, ?_⟩⟩
        · cases a with
          | move m =>
            have : m = .step i := step
            rw [this]
          | edit e => cases step
        · rw [eq] at found_eq
          have own : found.id = id := Shelf.id_of_find? found_eq.symm
          rw [own]
          exact ⟨⟨next, here⟩, found_eq.symm⟩

/-- Whatever a call writes, it has read before, but for the copies on the shelf. -/
theorem read_before_of_write {emit : EventSink} (sink : ∀ ev, (emit ev).Public)
    (errands : List Errand) (d : Desk) (acts : List Act) {i : Nat} {b : Book}
    (writes : (after (pool emit errands d) acts).Asks i (.store (.saveBook b))) :
    ∃ found copies, b = found.withCopies copies ∧ ReadIn (pool emit errands d) acts i found := by
  obtain ⟨next, here⟩ := writes
  have left_ : (after (pool emit errands d) acts).left? i =
      some (.ask (.store (.saveBook b)) next) := Pool.left?_of_ready here
  obtain ⟨hand, copying, read⟩ := copying_after sink errands d acts left_
  obtain ⟨found, copies, in_hand, rfl⟩ := copying.of_save
  exact ⟨found, copies, rfl, read found in_hand⟩

/-- The entry of a book that is in the catalogue stays in an act, or is edited, or is written by a
call. -/
theorem entryOf?_snoc {entry : Entry}
    (registered : (after start acts).world.shelf.entryOf? book = some entry) {a : Act} (allowed : a.Allowed) :
    (after start (acts ++ [a])).world.shelf.entryOf? book =
        some (a.revised book entry) ∨
      ∃ i b, a = .move (.step i) ∧ (after start acts).Asks i (.store (.saveBook b)) ∧ b.id = book ∧
        (after start (acts ++ [a])).world.shelf.entryOf? book = some b.entry := by
  rw [after_snoc]
  cases a with
  | edit e => exact .inl (Shelf.entryOf?_onShelf e registered)
  | move m =>
    rcases Pool.world_of_move Desk.answer (after start acts) m with
      same | ⟨f, rfl, changed⟩ | ⟨i, q, rfl, asks, asked⟩
    · simp only [Act.toMove, same]
      exact .inl registered
    · have stores := (allowed (after start acts).world).1
      have shelf : (f (after start acts).world).shelf = (after start acts).world.shelf :=
        congrArg Stores.shelf stores
      simp only [Act.toMove, changed, shelf]
      exact .inl registered
    · simp only [Act.toMove, asked]
      rcases Desk.shelf_answer q (after start acts).world with same | ⟨b, rfl, written⟩
      · rw [same]
        exact .inl registered
      · rw [written, Shelf.entryOf?_put]
        by_cases own : b.id = book
        · exact .inr ⟨i, b, rfl, asks, own, if_pos own⟩
        · rw [if_neg own]
          exact .inl registered

end Runs

/-- The entry of a book by the last edit in a run, or the one that it had. -/
def lastEntry (book : BookId) (entry : Entry) (acts : List Act) : Entry :=
  acts.foldl (fun entry a => a.revised book entry) entry

theorem lastEntry_append (book : BookId) (entry : Entry) (earlier later : List Act) :
    lastEntry book entry (earlier ++ later) = lastEntry book (lastEntry book entry earlier) later :=
  List.foldl_append

/-- Without an edit of the book the entry stays. -/
theorem lastEntry_of_unedited {book : BookId} {acts : List Act}
    (unedited : ∀ e, Act.edit e ∈ acts → e.book ≠ book) (entry : Entry) :
    lastEntry book entry acts = entry := by
  induction acts with
  | nil => rfl
  | cons a rest ih =>
    have later := ih fun e mem => unedited e (List.mem_cons_of_mem _ mem)
    cases a with
    | move m => exact later
    | edit e =>
      show lastEntry book (if e.book = book then e.entry else entry) rest = entry
      rw [if_neg (unedited e List.mem_cons_self)]
      exact later

/-- A call reads the book in one step of the run and writes it in a later one, and these acts fall
between the two. -/
def FallBetween (start : Pool Desk (Except Failure Served)) (book : BookId)
    (acts between : List Act) : Prop :=
  ∃ before later i b, acts = before ++ .move (.step i) :: (between ++ .move (.step i) :: later) ∧
    b.id = book ∧ (after start before).Asks i (.store (.findBook book)) ∧
    (after start (before ++ .move (.step i) :: between)).Asks i (.store (.saveBook b))

/-- Whatever the schedule, the faults and the calls that are given up, and whenever the catalogue is
edited: what a call writes has the entry that the book had when the same call read it. So if no edit
of a book falls between the reading and the writing of a call, its entry is that of its last edit. -/
theorem entry_of_run {emit : EventSink} (sink : ∀ ev, (emit ev).Public) (errands : List Errand)
    {d : Desk} {book : BookId} {b : Book} (registered : d.shelf.find? book = some b)
    {acts : List Act} (allowed : ∀ a ∈ acts, a.Allowed) :
    let start := pool emit errands d
    let entryOf? (acts : List Act) := (after start acts).world.shelf.entryOf? book
    (∀ i written, (after start acts).Asks i (.store (.saveBook written)) → written.id = book →
      ∃ before between, acts = before ++ .move (.step i) :: between ∧
        (after start before).Asks i (.store (.findBook book)) ∧
        entryOf? before = some written.entry) ∧
    ((∀ between, FallBetween start book acts between →
        ∀ e, Act.edit e ∈ between → e.book ≠ book) →
      entryOf? acts = some (lastEntry book b.entry acts)) := by
  intro start entryOf?
  have write_law : ∀ (acts : List Act) (i : Nat) (written : Book),
      (after start acts).Asks i (.store (.saveBook written)) → written.id = book →
        ∃ before between, acts = before ++ .move (.step i) :: between ∧
          (after start before).Asks i (.store (.findBook book)) ∧
          entryOf? before = some written.entry := by
    intro acts i written writes own
    obtain ⟨found, copies, rfl, before, between, eq, asks, there⟩ :=
      read_before_of_write sink errands d acts writes
    have own : found.id = book := own
    rw [own] at asks there
    refine ⟨before, between, eq, asks, ?_⟩
    rw [Book.entry_withCopies]
    exact Shelf.entryOf?_of_find? there
  refine ⟨write_law acts, ?_⟩
  -- The entry at a write is that of an earlier moment, so the induction is on the length of the run.
  induction size : acts.length using Nat.strongRecOn generalizing acts with
  | _ n ih =>
    intro apart
    rcases List.eq_nil_or_concat acts with rfl | ⟨earlier, a, rfl⟩
    · exact Shelf.entryOf?_of_find? registered
    · rw [List.concat_eq_append] at *
      have allowed_earlier : ∀ a ∈ earlier, a.Allowed := fun a mem =>
        allowed a (List.mem_append_left _ mem)
      have last := allowed a (List.mem_append_right _ List.mem_cons_self)
      have prefix_apart : ∀ (before rest : List Act), earlier ++ [a] = before ++ rest →
          ∀ between, FallBetween start book before between →
            ∀ e, Act.edit e ∈ between → e.book ≠ book := by
        rintro before rest eq between ⟨first, later, i, w, rfl, window⟩
        exact apart between ⟨first, later ++ rest, i, w, by simp [eq], window⟩
      have shorter : ∀ (before rest : List Act), earlier ++ [a] = before ++ rest → rest ≠ [] →
          entryOf? before = some (lastEntry book b.entry before) := by
        intro before rest eq some_left
        have lt : before.length < n := by
          have := congrArg List.length eq
          have := List.length_pos_iff.mpr some_left
          simp only [List.length_append] at *
          omega
        have allowed_before : ∀ a ∈ before, a.Allowed := fun a mem =>
          allowed a (eq ▸ List.mem_append_left _ mem)
        exact ih before.length lt allowed_before rfl (prefix_apart before rest eq)
      have before := shorter earlier [a] rfl (by simp)
      rcases entryOf?_snoc before last with kept | ⟨i, w, rfl, writes, own, written⟩
      · rw [lastEntry_append]
        exact kept
      · obtain ⟨first, between, rfl, asks, was⟩ := write_law earlier i w writes own
        have unedited : ∀ e, Act.edit e ∈ between → e.book ≠ book := by
          refine apart between ⟨first, [], i, w, by simp, own, asks, writes⟩
        have at_read := shorter first (.move (.step i) :: (between ++ [.move (.step i)])) (by simp)
          (by simp)
        have still : lastEntry book b.entry
            (first ++ .move (.step i) :: between ++ [.move (.step i)]) =
              lastEntry book b.entry first := by
          rw [lastEntry_append, lastEntry_append]
          exact lastEntry_of_unedited unedited _
        rw [still, ← at_read, was]
        exact written

/-- The catalogue gets a second edition, of three copies. -/
def secondEdition : Edit := ⟨⟨1⟩, "Emma, second edition", 3⟩

/-- A book that is edited first, and then borrowed and returned, keeps the new entry. -/
theorem entry_of_run_oneCopy :
    let acts := .edit secondEdition ::
      (List.replicate 12 0 ++ List.replicate 12 1).map fun i => Act.move (.step i)
    let p := after (pool recordingSink [borrowCopy, returnCopy] oneCopy) acts
    p.tasks.all (fun t => t.result?.isSome) = true ∧
      (p.world.ledger.find? ⟨1⟩).map (·.status) = some .returned ∧
      p.world.shelf.entryOf? ⟨1⟩ = some secondEdition.entry := by
  intro acts p
  refine ⟨by decide +kernel, by decide +kernel, ?_⟩
  have allowed : ∀ a ∈ acts, a.Allowed := by
    intro a mem
    rcases List.mem_cons.mp mem with rfl | mem
    · trivial
    · obtain ⟨i, -, rfl⟩ := List.mem_map.mp mem
      trivial
  -- The one edit comes before every step, so no call has read the book yet.
  refine (entry_of_run recordingSink_public [borrowCopy, returnCopy] (d := oneCopy)
    (b := ⟨⟨1⟩, "Emma", 1, 1⟩) (by decide) allowed).2 ?_
  rintro between ⟨before, later, i, b, eq, -⟩ e mem
  cases before with
  | nil => cases (List.cons.inj eq).1
  | cons first before =>
    have steps : _ = before ++ _ := (List.cons.inj eq).2
    have mem : Act.edit e ∈ before ++ .move (.step i) :: (between ++ .move (.step i) :: later) := by
      simp [mem]
    rw [← steps] at mem
    obtain ⟨j, -, not_edit⟩ := List.mem_map.mp mem
    cases not_edit

/-- The catalogue is edited after a call has read the book. The call takes its copy and writes the
book back, and nothing is left of the edit. -/
theorem edit_undone_by_lending :
    let start := pool recordingSink [borrowCopy] oneCopy
    let read := List.replicate 2 (Act.move (.step 0))
    let acts := read ++ .edit secondEdition :: List.replicate 10 (.move (.step 0))
    let p := after start acts
    (∃ b, (after start read).world.shelf.find? ⟨1⟩ = some b ∧
      b.availableCopies ≤ secondEdition.entry.totalCopies) ∧
    p.tasks.all (fun t => (t.result?.bind Except.toOption).isSome) = true ∧
    lastEntry ⟨1⟩ ⟨"Emma", 1⟩ acts = secondEdition.entry ∧
    p.world.shelf.find? ⟨1⟩ = some ⟨⟨1⟩, "Emma", 1, 0⟩ := by
  refine ⟨⟨⟨⟨1⟩, "Emma", 1, 1⟩, by decide +kernel, by decide⟩, by decide +kernel, by decide, ?_⟩
  decide +kernel

end Lending

end Circulation
