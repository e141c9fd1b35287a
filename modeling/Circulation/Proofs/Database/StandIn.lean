/- # Circulation.Proofs.Database.StandIn -- a desk in the place of a database

The store of loans of a desk stands in for the one that keeps them in a table of a database. As long as
borrowed loans have no return date in the table, both give the same answers, call by call, and are left
with the same loans; and no call makes a borrowed loan with a return date (`stands_in`). Rows are in no
order, so the rows of the table are those of the loans of the desk up to their order. That the two state
the condition for an active loan differently, one with and one without a return date, does not show.

Of the server it is assumed that a statement means what its text says wherever the rules of the table
allow it (`Server.Lawful`). The rules bound all numbers to sixty-four bits, so nothing is assumed of a
sequence of numbers that has come to its end. Times have to be whole microseconds that are not in a leap
second: a database knows none, and its loan comes back with another date than that of the desk
(`leap_second_moves`).
-/
import Circulation.Proofs.Database.Agreement

namespace Circulation.Database

open Time (Instant)

/-! ## Servers -/

/-- A database server, as far as the store of loans depends on it. -/
structure Server where
  State : Type
  execute : Statement → State → Reply × State
  loans : State → Table
  /-- The books that are there. -/
  books : State → BookId → Prop

/-- The same table: rows have no order. -/
structure Same (t t' : Table) : Prop where
  columns : t.columns = t'.columns
  key : t.key = t'.key
  rows : t.rows.Perm t'.rows
  next : t.nextKey = t'.nextKey

namespace Server

/-- The statement of the call is carried out as its text says, and leaves the books alone. -/
structure CarriesOut (srv : Server) (c : StoreCall) (s : srv.State) : Prop where
  reply : (srv.execute (statement c) s).1 = ((srv.loans s).run (statement c)).1
  table : Same (srv.loans (srv.execute (statement c) s).2) ((srv.loans s).run (statement c)).2
  books : srv.books (srv.execute (statement c) s).2 = srv.books s

/-- The statements of the store of loans mean what their text says, for numbers and times in the range of
a column and books that are there, as long as the table keeps its rules. -/
def Lawful (srv : Server) : Prop :=
  ∀ (c : StoreCall) (s : srv.State), Fits Whole (srv.books s) c → IsLoans (srv.books s) (srv.loans s) →
    IsLoans (srv.books s) ((srv.loans s).run (statement c)).2 → srv.CarriesOut c s

/-- A call to the store of loans that keeps them on this server. -/
def ask (srv : Server) (c : StoreCall) (s : srv.State) : Reading c.Result × srv.State :=
  (read c (srv.execute (statement c) s).1, (srv.execute (statement c) s).2)

end Server

theorem Fits.mono {kind kind' : Instant → Prop} {books : BookId → Prop} {c : StoreCall}
    (h : Fits kind books c) (weaker : ∀ {t}, kind t → kind' t) : Fits kind' books c := by
  cases c with
  | createLoan => exact ⟨h.1, weaker h.2.1, weaker h.2.2.1, h.2.2.2⟩
  | markReturned => exact ⟨h.1, weaker h.2⟩
  | _ => exact h

/-- What is a list of images up to order is the list of the images of the same things. -/
theorem exists_map_of_perm {α β : Type} [DecidableEq α] {f : α → β} {images : List β} {items : List α}
    (perm : images.Perm (items.map f)) : ∃ items' : List α, images = items'.map f ∧ items'.Perm items := by
  induction images generalizing items with
  | nil =>
    have none : items = [] := List.map_eq_nil_iff.mp perm.symm.eq_nil
    exact ⟨[], rfl, by rw [none]⟩
  | cons b images ih =>
    obtain ⟨a, mem, rfl⟩ := List.mem_map.mp (perm.mem_iff.mp List.mem_cons_self)
    have apart := List.perm_cons_erase mem
    obtain ⟨items', rfl, rest⟩ := ih (perm.trans (apart.map f)).cons_inv
    exact ⟨a :: items', rfl, (rest.cons a).trans apart.symm⟩

variable {books : BookId → Prop} {loans : List Loan} {next : Int} {d : Desk}

/-- The table of these loans keeps its rules. -/
theorem Agree.isLoans (h : Agree books loans next d) : IsLoans books (tableOf loans next) where
  columns := rfl
  key := rfl
  rows := by
    intro row mem
    obtain ⟨l, member, rfl⟩ := List.mem_map.mp mem
    exact ⟨_, (h.enterable l member).valid, rfl⟩
  distinct := by
    have numbers : (loans.map rowOf).map (Table.cell · "id") = loans.map fun l => .int l.id.value := by
      rw [List.map_map]
      rfl
    rw [tableOf, numbers, (h.perm.map _).nodup_iff]
    apply List.pairwise_map.mpr
    exact d.ledger.loans.ascending.imp fun lt eq => absurd (Cell.int.inj eq) (by omega)
  next := h.bounded

theorem Agree.of_perm (h : Agree books loans next d) {loans' : List Loan} (perm : loans'.Perm loans) :
    Agree books loans' next d :=
  { h with
    enterable := fun l mem => h.enterable l (perm.mem_iff.mp mem)
    unreturned := fun l mem => h.unreturned l (perm.mem_iff.mp mem)
    perm := perm.trans h.perm }

/-- What is the same table as that of some loans is the table of these loans in some order. -/
theorem Same.exists_tableOf {t : Table} (same : Same t (tableOf loans next)) :
    ∃ loans', t = tableOf loans' next ∧ loans'.Perm loans := by
  obtain ⟨loans', rows, perm⟩ := exists_map_of_perm same.rows
  refine ⟨loans', ?_, perm⟩
  calc t = ⟨t.columns, t.key, t.rows, t.nextKey⟩ := rfl
    _ = tableOf loans' next := by rw [same.columns, same.key, same.next, rows]; rfl

/-- Server and desk answer a call alike and still agree. -/
theorem Server.step {srv : Server} (lawful : srv.Lawful) {s : srv.State}
    (table : srv.loans s = tableOf loans next) (h : Agree (srv.books s) loans next d) {c : StoreCall}
    (fits : Fits Storable (srv.books s) c) (room : Fits64 (Desk.answerStore c d).2.ledger.nextId) :
    ∃ (result : c.Result) (loans' : List Loan) (next' : Int),
      (srv.ask c s).1 = .ok result ∧ (Desk.answerStore c d).1 = .ok result ∧
      srv.loans (srv.ask c s).2 = tableOf loans' next' ∧ srv.books (srv.ask c s).2 = srv.books s ∧
      Agree (srv.books s) loans' next' (Desk.answerStore c d).2 := by
  obtain ⟨result, loans', next', answer, after, answer', agree⟩ := h.step fits room
  have rules : IsLoans (srv.books s) ((srv.loans s).run (statement c)).2 := by
    rw [table, after]
    exact agree.isLoans
  have carried := lawful c s (fits.mono Storable.toWhole) (table ▸ h.isLoans) rules
  have same := carried.table
  rw [table, after] at same
  obtain ⟨loans'', after', perm⟩ := same.exists_tableOf
  refine ⟨result, loans'', next', ?_, answer', after', carried.books, agree.of_perm perm⟩
  rw [ask, carried.reply, table]
  exact answer

/-! ## Calls in sequence -/

/-- Calls one after the other: each with its answer, and what is left in the end. -/
def runCalls {σ ε : Type} (ask : (c : StoreCall) → σ → Except ε c.Result × σ) :
    List StoreCall → σ → List (Σ c : StoreCall, Except ε c.Result) × σ
  | [], s => ([], s)
  | c :: calls, s =>
    let (answer, s') := ask c s
    let (answers, s'') := runCalls ask calls s'
    (⟨c, answer⟩ :: answers, s'')

/-- The next number only grows. -/
theorem nextId_le_answerStore (c : StoreCall) (d : Desk) :
    d.ledger.nextId ≤ (Desk.answerStore c d).2.ledger.nextId := by
  cases c with
  | findBook id => cases flag : d.faults.failReads <;> simp [Desk.answerStore, flag]
  | saveBook b => cases flag : d.faults.failUpdates <;> simp [Desk.answerStore, flag]
  | createLoan draft =>
    cases flag : d.faults.failCreates with
    | true => simp [Desk.answerStore, flag]
    | false =>
      simp only [Desk.answerStore, flag, Bool.false_eq_true, if_false, Ledger.create]
      omega
  | markReturned id user at_ =>
    exact Int.le_of_eq (Ledger.nextId_markReturned d.ledger id user at_).symm
  | findLoan | hasActiveLoan => exact Int.le_refl _

theorem nextId_le_runCalls (calls : List StoreCall) (d : Desk) :
    d.ledger.nextId ≤ (runCalls Desk.answerStore calls d).2.ledger.nextId := by
  induction calls generalizing d with
  | nil => exact Int.le_refl _
  | cons c calls ih => exact Int.le_trans (nextId_le_answerStore c d) (ih (Desk.answerStore c d).2)

/-- A call that had a result. -/
def succeeded {ε : Type} (r : Σ c : StoreCall, c.Result) : Σ c : StoreCall, Except ε c.Result :=
  ⟨r.1, .ok r.2⟩

/-- Server and desk answer calls in sequence alike, with results, and agree in the end. -/
theorem Server.run {srv : Server} (lawful : srv.Lawful) (calls : List StoreCall) {s : srv.State}
    (table : srv.loans s = tableOf loans next) (h : Agree (srv.books s) loans next d)
    (fits : ∀ c ∈ calls, Fits Storable (srv.books s) c)
    (room : Fits64 (runCalls Desk.answerStore calls d).2.ledger.nextId) :
    ∃ (results : List (Σ c : StoreCall, c.Result)) (loans' : List Loan) (next' : Int),
      results.map Sigma.fst = calls ∧ (runCalls srv.ask calls s).1 = results.map succeeded ∧
      (runCalls Desk.answerStore calls d).1 = results.map succeeded ∧
      srv.loans (runCalls srv.ask calls s).2 = tableOf loans' next' ∧
      srv.books (runCalls srv.ask calls s).2 = srv.books s ∧
      Agree (srv.books s) loans' next' (runCalls Desk.answerStore calls d).2 := by
  induction calls generalizing s loans next d with
  | nil => exact ⟨[], loans, next, rfl, rfl, rfl, table, rfl, h⟩
  | cons c calls ih =>
    -- The number after this call is between the one before it and the last of all.
    have first : Fits64 (Desk.answerStore c d).2.ledger.nextId := by
      have before : Fits64 d.ledger.nextId := h.next ▸ h.bounded
      have up : d.ledger.nextId ≤ _ := nextId_le_answerStore c d
      have later : (Desk.answerStore c d).2.ledger.nextId ≤ _ := nextId_le_runCalls calls _
      exact ⟨Int.le_trans before.1 up, Int.lt_of_le_of_lt later room.2⟩
    obtain ⟨result, loans₁, next₁, answer, answer', table₁, kept, agree⟩ :=
      step lawful table h (fits c List.mem_cons_self) first
    rw [← kept] at agree
    obtain ⟨results, loans', next', same, table', desk', after, books, agree'⟩ := ih table₁ agree
      (fun c' mem => kept ▸ fits c' (List.mem_cons_of_mem c mem)) room
    refine ⟨⟨c, result⟩ :: results, loans', next', ?_, ?_, ?_, after, books.trans kept, kept ▸ agree'⟩
    · rw [List.map_cons, same]
    · show ⟨c, (srv.ask c s).1⟩ :: (runCalls srv.ask calls (srv.ask c s).2).1 = _
      rw [answer, table']
      rfl
    · show ⟨c, (Desk.answerStore c d).1⟩ :: (runCalls Desk.answerStore calls (Desk.answerStore c d).2).1 = _
      rw [answer', desk']
      rfl

/-- The table keeps its rules, its rows are read as the loans of the desk, and it goes on with the same
number. -/
structure Mirrors (srv : Server) (s : srv.State) (d : Desk) : Prop where
  rules : IsLoans (srv.books s) (srv.loans s)
  loans : ∃ loans, Reads (srv.loans s) loans ∧ loans.Perm d.ledger.loans.toList
  next : (srv.loans s).nextKey = d.ledger.nextId

/-- In each row with the status of borrowed loans the return date is null. -/
def BorrowedUnreturned (t : Table) : Prop :=
  ∀ row ∈ t.rows, Table.cell row "status" = .text "borrowed" → Table.cell row "return_date" = .null

theorem borrowedUnreturned_iff :
    BorrowedUnreturned (tableOf loans next) ↔
      ∀ l ∈ loans, l.status = .borrowed → l.returnDate = none := by
  have row (l : Loan) : (Table.cell (rowOf l) "status" = .text "borrowed" ↔ l.status = .borrowed) ∧
      (Table.cell (rowOf l) "return_date" = .null ↔ l.returnDate = none) := by
    refine ⟨borrowed_eq_iff l.status, ?_⟩
    show (l.returnDate.map microsOf).elim Cell.null Cell.time = .null ↔ _
    cases l.returnDate <;> simp
  unfold BorrowedUnreturned tableOf
  simp only [List.forall_mem_map, row]

/-- Whatever the server, as long as it is lawful, and whatever loans its table and a desk have in common,
with no return date where a loan is borrowed: calls in any number, as long as the numbers for loans last,
with times of whole microseconds in the range of the database that are not in leap seconds and for books
that are there, get the same answers from both, each of them a result. In the end the loans are the same
again, and there is still no return date where a loan is borrowed. -/
theorem stands_in (srv : Server) (lawful : srv.Lawful) {s : srv.State} {d : Desk}
    (mirrors : Mirrors srv s d) (unreturned : BorrowedUnreturned (srv.loans s))
    (numbered : d.ledger.Numbered) (creates : d.faults.failCreates = false)
    (returns : d.faults.loseNextReturn = false) {calls : List StoreCall}
    (fits : ∀ c ∈ calls, Fits Storable (srv.books s) c)
    (room : Fits64 (runCalls Desk.answerStore calls d).2.ledger.nextId) :
    let onServer := runCalls srv.ask calls s
    let atDesk := runCalls Desk.answerStore calls d
    (∃ results : List (Σ c : StoreCall, c.Result), results.map Sigma.fst = calls ∧
        onServer.1 = results.map succeeded ∧ atDesk.1 = results.map succeeded) ∧
      Mirrors srv onServer.2 atDesk.2 ∧ BorrowedUnreturned (srv.loans onServer.2) := by
  intro onServer atDesk
  obtain ⟨loans, reads, perm⟩ := mirrors.loans
  obtain ⟨table, enterable⟩ := eq_tableOf mirrors.rules reads
  have agree : Agree (srv.books s) loans (srv.loans s).nextKey d :=
    ⟨enterable, borrowedUnreturned_iff.mp (table ▸ unreturned), perm, mirrors.rules.next, mirrors.next,
      numbered, creates, returns⟩
  obtain ⟨results, loans', next', same, answers, answers', table', books, agree'⟩ :=
    srv.run lawful calls table agree fits room
  rw [← books] at agree'
  refine ⟨⟨results, same, answers, answers'⟩, ⟨?_, ⟨loans', ?_, agree'.perm⟩, ?_⟩, ?_⟩
  · rw [table']
    exact agree'.isLoans
  · rw [table']
    exact reads_tableOf next' fun l mem => (agree'.enterable l mem).dated.mono Storable.kept
  · rw [table']
    exact agree'.next
  · rw [table']
    exact borrowedUnreturned_iff.mpr agree'.unreturned

/-- A server that keeps a table of loans and the numbers of some books, and does to the table what a
statement says. -/
def plainServer : Server where
  State := Table × List BookId
  execute st s := ((s.1.run st).1, (s.1.run st).2, s.2)
  loans s := s.1
  books s b := b ∈ s.2

theorem plainServer_lawful : plainServer.Lawful := by
  intro c s _ _ _
  exact ⟨rfl, ⟨rfl, rfl, .refl _, rfl⟩, rfl⟩

/-- No loans, and one book. -/
def noLoans : Table × List BookId := (tableOf [] 1, [⟨1⟩])

/-- A desk without loans. -/
def idleDesk : Desk := ⟨Register.empty, .empty, .none, ⟨0, 0⟩, []⟩

theorem mirrors_noLoans : Mirrors plainServer noLoans idleDesk where
  rules := ⟨rfl, rfl, fun _ mem => absurd mem List.not_mem_nil, .nil, by decide⟩
  loans := ⟨[], rfl, .refl _⟩
  next := rfl

theorem whole_leapSecond : Whole (.leapSecond 0) := ⟨rfl, by decide, by decide⟩

theorem whole_afterLeapSecond : Whole .afterLeapSecond := ⟨rfl, by decide, by decide⟩

/-- A loan is made, found active and settled, and then it is read. -/
theorem stands_in_noLoans :
    let calls := [.createLoan ⟨⟨7⟩, ⟨1⟩, .afterLeapSecond, .afterLeapSecond⟩, .hasActiveLoan ⟨7⟩ ⟨1⟩,
      .markReturned ⟨1⟩ ⟨7⟩ .afterLeapSecond, .findLoan ⟨1⟩]
    let onServer := runCalls plainServer.ask calls noLoans
    let atDesk := runCalls Desk.answerStore calls idleDesk
    (∃ results : List (Σ c : StoreCall, c.Result), results.map Sigma.fst = calls ∧
        onServer.1 = results.map succeeded ∧ atDesk.1 = results.map succeeded) ∧
      Mirrors plainServer onServer.2 atDesk.2 ∧ BorrowedUnreturned (plainServer.loans onServer.2) := by
  intro calls
  have storable : Storable .afterLeapSecond := ⟨whole_afterLeapSecond, rfl⟩
  have fits : ∀ c ∈ calls, Fits Storable (plainServer.books noLoans) c := by
    have listed : plainServer.books noLoans ⟨1⟩ := List.mem_singleton.mpr rfl
    simp [calls, Fits, Fits64, storable, listed]
  exact stands_in plainServer plainServer_lawful mirrors_noLoans
    (fun _ mem => absurd mem List.not_mem_nil) Ledger.numbered_empty rfl rfl fits (by decide)

/-- The date of the loan that a call has found. -/
def dateOf : (Σ c : StoreCall, c.Result) → Option Instant
  | ⟨.findLoan _, some l⟩ => some l.loanDate
  | _ => none

/-- The date of the loan in an answer. -/
def answeredDate {ε : Type} : (Σ c : StoreCall, Except ε c.Result) → Option Instant
  | ⟨c, .ok result⟩ => dateOf ⟨c, result⟩
  | ⟨_, .error _⟩ => none

theorem map_answeredDate {ε : Type} (results : List (Σ c : StoreCall, c.Result)) :
    (results.map (succeeded : _ → Σ c : StoreCall, Except ε c.Result)).map answeredDate =
      results.map dateOf := by
  rw [List.map_map]
  rfl

/-- A leap second is of whole microseconds too, and the table is one without a borrowed loan, but a loan
that begins in it is found at the desk with that date, and on the server with that of the second after
it: the answers are not the same. -/
theorem leap_second_moves :
    let calls := [.createLoan ⟨⟨7⟩, ⟨1⟩, .leapSecond 0, .afterLeapSecond⟩, .findLoan ⟨1⟩]
    plainServer.Lawful ∧ Mirrors plainServer noLoans idleDesk ∧
      BorrowedUnreturned (plainServer.loans noLoans) ∧ idleDesk.ledger.Numbered ∧
      idleDesk.faults = Faults.none ∧ (∀ c ∈ calls, Fits Whole (plainServer.books noLoans) c) ∧
      Fits64 (runCalls Desk.answerStore calls idleDesk).2.ledger.nextId ∧
      ¬∃ results : List (Σ c : StoreCall, c.Result),
        (runCalls plainServer.ask calls noLoans).1 = results.map succeeded ∧
          (runCalls Desk.answerStore calls idleDesk).1 = results.map succeeded := by
  intro calls
  refine ⟨plainServer_lawful, mirrors_noLoans, fun _ mem => absurd mem List.not_mem_nil,
    Ledger.numbered_empty, rfl, ?_, by decide, ?_⟩
  · have listed : plainServer.books noLoans ⟨1⟩ := List.mem_singleton.mpr rfl
    simp [calls, Fits, Fits64, whole_afterLeapSecond, whole_leapSecond, listed]
  · rintro ⟨results, onServer, atDesk⟩
    have moved : (runCalls plainServer.ask calls noLoans).1.map answeredDate =
        [none, some .afterLeapSecond] := by
      decide
    have kept : (runCalls Desk.answerStore calls idleDesk).1.map answeredDate =
        [none, some (.leapSecond 0)] := by
      decide
    rw [onServer, map_answeredDate] at moved
    rw [atDesk, map_answeredDate] at kept
    exact absurd (moved.symm.trans kept) (by decide)

end Circulation.Database
