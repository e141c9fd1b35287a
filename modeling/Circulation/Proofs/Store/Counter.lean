/- # Circulation.Proofs.Store.Counter -- numbers for loans in machine words

The ledger takes the number for the next loan from the whole numbers. A machine keeps it in a word of
sixty-four bits, and a call that would push it beyond its word breaks off before anything is stored, and
its task with it. At such a counter a pool goes through a schedule as it does with whole numbers, but
that a task whose step breaks off is given up there (`run_counted`). So what holds of all schedules,
with tasks that are given up at any time, holds of the machine. As long as the next number fits into its
word no step breaks off, and the machine runs the very schedule (`run_counted_of_fits`).
-/
import Circulation.Proofs.Book
import Circulation.Proofs.Pool.Thread
import Circulation.Store.Desk

namespace Circulation

open Time (Instant)

/-- To settle a loan the next number is not looked at. -/
theorem Ledger.markReturned_counting (l : Ledger) (n : Int) (id : LoanId) (user : UserId)
    (at_ : Instant) :
    ({ l with nextId := n } : Ledger).markReturned id user at_ =
      ((l.markReturned id user at_).1, { (l.markReturned id user at_).2 with nextId := n }) := by
  have found : ({ l with nextId := n } : Ledger).find? id = l.find? id := rfl
  unfold markReturned
  rw [found]
  cases l.find? id with
  | none => rfl
  | some loan => by_cases due : loan.userId = user ∧ loan.status = .borrowed <;> simp [due]

/-! ## A desk that counts in words -/

/-- A desk with its next number in a word; the next number of its own ledger is not looked at. -/
structure Counted where
  desk : Desk
  next : Int64

namespace Counted

/-- The desk with the number that the word stands for. -/
def toDesk (c : Counted) : Desk :=
  { c.desk with ledger := { c.desk.ledger with nextId := c.next.toInt } }

/-- The desk with its number in a word. -/
def ofDesk (d : Desk) : Counted := ⟨d, Int64.ofInt d.ledger.nextId⟩

/-- The next number does not fit into its word any more when this is answered. -/
def breaksOff : Request → Counted → Bool
  | .store (.createLoan _), c => !c.desk.faults.failCreates && (checkedAdd? c.next 1).isNone
  | _, _ => false

/-- Answer a request: a loan that is created gets the number in the word, and the word moves on. What
does not create a loan is answered by the desk. -/
def answer : Surroundings Counted
  | .store (.createLoan draft), c =>
    if c.desk.faults.failCreates then (.error Desk.loansUnavailable, c)
    else
      let loan := draft.toLoan ⟨c.next.toInt⟩
      let loans := c.desk.ledger.loans.put loan
      (.ok loan, ⟨{ c.desk with ledger := { c.desk.ledger with loans } }, c.next + 1⟩)
  | q, c =>
    let (a, desk) := Desk.answer q c.desk
    (a, { c with desk })

theorem fits64_toDesk (c : Counted) : Fits64 c.toDesk.ledger.nextId := fits64_toInt c.next

theorem toDesk_ofDesk {d : Desk} (fits : Fits64 d.ledger.nextId) : (ofDesk d).toDesk = d := by
  show { d with ledger := ⟨d.ledger.loans, (Int64.ofInt d.ledger.nextId).toInt⟩ } = d
  rw [Instant.toInt_ofInt_of_fits64 fits]

/-- To create a loan breaks off if it is going to be created under the last number of all. -/
theorem breaksOff_createLoan_iff (draft : LoanDraft) (c : Counted) :
    breaksOff (.store (.createLoan draft)) c = true ↔
      c.desk.faults.failCreates = false ∧ ¬Fits64 (c.next.toInt + 1) := by
  have last : (checkedAdd? c.next 1).isNone = true ↔ ¬Fits64 (c.next.toInt + 1) := by
    by_cases fits : Fits64 (c.next.toInt + 1)
    · obtain ⟨_, sum, -⟩ := checkedAdd?_of_fits64 (b := 1) fits
      simp [sum, fits]
    · simp [checkedAdd?_of_not_fits64 (b := 1) fits, fits]
  rw [← last, breaksOff, Bool.and_eq_true, Bool.not_eq_true']

example : breaksOff (.store (.createLoan default)) ⟨default, 9223372036854775807⟩ = true := by
  decide

/-- Nothing else breaks off. -/
theorem exists_createLoan_of_breaksOff {q : Request} {c : Counted} (breaks : breaksOff q c = true) :
    ∃ draft, q = .store (.createLoan draft) := by
  cases q with
  | store call =>
    cases call with
    | createLoan draft => exact ⟨draft, rfl⟩
    | _ => cases breaks
  | _ => cases breaks

theorem next_createLoan {c : Counted} (fits : Fits64 (c.next.toInt + 1)) :
    (c.next + 1).toInt = c.next.toInt + 1 :=
  (Int64.toInt_add c.next 1).trans (Instant.bmod_of_fits64 fits)

/-- What does not break off is answered as the desk with whole numbers answers it. -/
theorem answer_toDesk {q : Request} {c : Counted} (goes : breaksOff q c = false) :
    Desk.answer q c.toDesk = ((answer q c).1, (answer q c).2.toDesk) := by
  cases q with
  | store call =>
    cases call with
    | findBook id =>
      cases flag : c.desk.faults.failReads <;> simp [answer, Desk.answer, Desk.answerStore, toDesk, flag]
    | saveBook b =>
      cases flag : c.desk.faults.failUpdates <;>
        simp [answer, Desk.answer, Desk.answerStore, toDesk, flag]
    | createLoan draft =>
      cases flag : c.desk.faults.failCreates with
      | true => simp [answer, Desk.answer, Desk.answerStore, toDesk, flag]
      | false =>
        have room : Fits64 (c.next.toInt + 1) := by
          refine Decidable.of_not_not fun wide => ?_
          rw [(breaksOff_createLoan_iff draft c).mpr ⟨flag, wide⟩] at goes
          cases goes
        simp [answer, Desk.answer, Desk.answerStore, toDesk, flag, Ledger.create, next_createLoan room]
    | markReturned id user at_ =>
      simp [answer, Desk.answer, Desk.answerStore, toDesk, Ledger.markReturned_counting]
    | findLoan | hasActiveLoan => rfl
  | _ => rfl

end Counted

/-! ## A pool that counts in words -/

namespace Pool

variable {σ τ α : Type}

/-- The pool with its surroundings seen in another way. -/
def view (see : σ → τ) (p : Pool σ α) : Pool τ α := ⟨see p.world, p.gate, p.tasks⟩

theorem view_leaveGate (see : σ → τ) (p : Pool σ α) : p.leaveGate.view see = (p.view see).leaveGate := by
  simp only [leaveGate, view]
  cases p.gate.leave.holder <;> rfl

theorem view_drop (see : σ → τ) (p : Pool σ α) (i : Nat) : (p.drop i).view see = (p.view see).drop i := by
  have same : (p.view see).tasks[i]? = p.tasks[i]? := rfl
  simp only [drop, same]
  split
  · have held : (p.view see).gate.holds i = p.gate.holds i := rfl
    rw [held]
    split
    · exact view_leaveGate see _
    · rfl
  · rfl
  · rfl

/-- A step is seen as a step if the answer to what the task asks is. -/
theorem view_step {see : σ → τ} {answer : Surroundings σ} {answer' : Surroundings τ} {p : Pool σ α}
    {i : Nat} (agrees : ∀ q, p.Asks i q →
      answer' q (see p.world) = ((answer q p.world).1, see (answer q p.world).2)) :
    (p.step answer i).view see = (p.view see).step answer' i := by
  by_cases idle : ∀ q, ¬p.Asks i q
  · have idle' : ∀ q, ¬(p.view see).Asks i q := idle
    rw [step_idle fun q next here => idle q ⟨next, here⟩,
      step_idle fun q next here => idle' q ⟨next, here⟩]
  · obtain ⟨q, next, here⟩ := Classical.not_forall_not.mp idle
    have here' : (p.view see).tasks[i]? = some (.ready (.ask q next)) := here
    cases gate : q.isGate with
    | false =>
      rw [(step_ask answer here gate).1, (step_ask answer' here' gate).1]
      have answered : answer' q (p.view see).world = _ := agrees q ⟨next, here⟩
      rw [answered]
      rfl
    | true =>
      cases q with
      | enterGate =>
        simp only [step, here, here']
        have free : (p.view see).gate.holder.isNone = p.gate.holder.isNone := rfl
        rw [free]
        split <;> rfl
      | leaveGate =>
        simp only [step, here, here']
        exact view_leaveGate see _
      | _ => cases gate

/-- What the task at a place asks next breaks off. -/
def breaksAt (breaks : Request → σ → Bool) (p : Pool σ α) (i : Nat) : Bool :=
  match p.tasks[i]? with
  | some (.ready (.ask q _)) => breaks q p.world
  | _ => false

theorem breaksAt_of_asks (breaks : Request → σ → Bool) {p : Pool σ α} {i : Nat} {q : Request}
    (asks : p.Asks i q) : p.breaksAt breaks i = breaks q p.world := by
  obtain ⟨next, here⟩ := asks
  rw [breaksAt, here]

theorem asks_of_breaksAt {breaks : Request → σ → Bool} {p : Pool σ α} {i : Nat}
    (h : p.breaksAt breaks i = true) : ∃ q, p.Asks i q ∧ breaks q p.world = true := by
  unfold breaksAt at h
  split at h
  · rename_i q next here
    exact ⟨q, ⟨next, here⟩, h⟩
  · cases h

/-- The move as a pool that counts in words makes it: a task whose step breaks off is given up. -/
def inWords (p : Pool Counted α) : Move Desk → Move Desk
  | .step i => if p.breaksAt Counted.breaksOff i then .drop i else .step i
  | m => m

/-- A move of a pool that counts in words. What changes by itself is put into words again. -/
def countedMove (p : Pool Counted α) (m : Move Desk) : Pool Counted α :=
  match p.inWords m with
  | .step i => p.step Counted.answer i
  | .drop i => p.drop i
  | .change f => { p with world := .ofDesk (f p.world.toDesk) }

/-- The pool after a schedule, counting in words. -/
def countedRun (p : Pool Counted α) (schedule : List (Move Desk)) : Pool Counted α :=
  schedule.foldl countedMove p

/-- The moves that a schedule comes to when counting in words. -/
def allInWords (p : Pool Counted α) : List (Move Desk) → List (Move Desk)
  | [] => []
  | m :: rest => p.inWords m :: (p.countedMove m).allInWords rest

/-- If the move changes the surroundings by itself, it leaves a number that fits into a word. -/
def Move.KeepsCount (m : Move Desk) : Prop :=
  ∀ f, m = .change f → ∀ d : Desk, Fits64 d.ledger.nextId → Fits64 (f d).ledger.nextId

theorem view_countedMove {p : Pool Counted α} {m : Move Desk}
    (fits : ∀ f, m = .change f → Fits64 (f p.world.toDesk).ledger.nextId) :
    (p.countedMove m).view Counted.toDesk =
      (p.view Counted.toDesk).move Desk.answer (p.inWords m) := by
  cases m with
  | step i =>
    cases breaks : p.breaksAt Counted.breaksOff i with
    | true =>
      have dropped : p.inWords (.step i) = .drop i := if_pos breaks
      rw [countedMove, dropped]
      exact view_drop _ p i
    | false =>
      have stays : p.inWords (.step i) = .step i := if_neg (by simp [breaks])
      rw [countedMove, stays]
      exact view_step fun q asks =>
        Counted.answer_toDesk ((breaksAt_of_asks Counted.breaksOff asks).symm.trans breaks)
  | drop i => exact view_drop _ p i
  | change f =>
    show Pool.mk (Counted.ofDesk (f p.world.toDesk)).toDesk p.gate p.tasks = _
    rw [Counted.toDesk_ofDesk (fits f rfl)]
    rfl

/-- Counting in words, a pool goes through a schedule as it does with whole numbers through the one in
which every task whose step breaks off is given up there. -/
theorem run_counted (p : Pool Counted α) {schedule : List (Move Desk)}
    (keeps : ∀ m ∈ schedule, m.KeepsCount) :
    (p.countedRun schedule).view Counted.toDesk =
      (p.view Counted.toDesk).run Desk.answer (p.allInWords schedule) := by
  induction schedule generalizing p with
  | nil => rfl
  | cons m rest ih =>
    obtain ⟨first, later⟩ := List.forall_mem_cons.mp keeps
    show ((p.countedMove m).countedRun rest).view _ =
      ((p.view _).move Desk.answer (p.inWords m)).run Desk.answer ((p.countedMove m).allInWords rest)
    rw [ih _ later, view_countedMove fun f change => first f change _ p.world.fits64_toDesk]

/-- A step after which the next number fits does not break off. -/
theorem inWords_of_fits {p : Pool Counted α} {m : Move Desk}
    (fits : Fits64 ((p.view Counted.toDesk).move Desk.answer m).world.ledger.nextId) :
    p.inWords m = m := by
  cases m with
  | step i =>
    refine if_neg fun breaks => ?_
    obtain ⟨q, ⟨next, here⟩, off⟩ := asks_of_breaksAt breaks
    obtain ⟨draft, rfl⟩ := Counted.exists_createLoan_of_breaksOff off
    obtain ⟨works, wide⟩ := (Counted.breaksOff_createLoan_iff draft p.world).mp off
    -- With whole numbers the step creates the loan, and the next number moves on.
    have here' : (p.view Counted.toDesk).tasks[i]? = some (.ready (.ask _ next)) := here
    have moved : ((p.view Counted.toDesk).step Desk.answer i).world.ledger.nextId =
        p.world.next.toInt + 1 := by
      rw [(step_ask Desk.answer here' rfl).1]
      simp [view, Desk.answer, Desk.answerStore, works, Ledger.create, Counted.toDesk]
    exact wide (moved ▸ fits)
  | drop i => rfl
  | change f => rfl

/-- As long as the next number fits into a word, a pool that counts in words goes through a schedule as
it does with whole numbers. -/
theorem run_counted_of_fits (p : Pool Counted α) {schedule : List (Move Desk)}
    (fits : ∀ earlier, earlier <+: schedule →
      Fits64 ((p.view Counted.toDesk).run Desk.answer earlier).world.ledger.nextId) :
    (p.countedRun schedule).view Counted.toDesk = (p.view Counted.toDesk).run Desk.answer schedule := by
  induction schedule generalizing p with
  | nil => rfl
  | cons m rest ih =>
    have now : Fits64 ((p.view Counted.toDesk).move Desk.answer m).world.ledger.nextId :=
      fits [m] ⟨rest, rfl⟩
    have moved : (p.countedMove m).view Counted.toDesk = (p.view Counted.toDesk).move Desk.answer m := by
      rw [view_countedMove, inWords_of_fits now]
      rintro f rfl
      exact now
    show ((p.countedMove m).countedRun rest).view _ =
      ((p.view _).move Desk.answer m).run Desk.answer rest
    rw [← moved]
    refine ih _ fun earlier before => ?_
    rw [moved]
    exact fits (m :: earlier) (List.cons_prefix_cons.mpr ⟨rfl, before⟩)

end Pool

end Circulation
