/- # Circulation.Proofs.Store.Numbering -- numbers that no loan had before

Loans come into memory in two ways: with a number that they have, or as drafts that get the next one.
Creating a loan is the same as entering it with that number (`Ledger.create_eq_insert`), so a ledger
depends only on the loans that came into it, in their order (`Ledger.ofLoans`). Each of them pushes the
next number above its own, and a loan with the same number is the only one that takes its place: the
next number is the least one from 1 on that is above all numbers that were ever in use, and under each
number stands the loan that came last with it. Hence a loan that is created stands behind all others
and takes nobody's place. A call that fails leaves the desk as it is.
-/
import Mathlib.Data.List.Induction
import Mathlib.Order.Bounds.Defs
import Circulation.Proofs.Store.Laws
import Circulation.Store.Desk

namespace Circulation

/-! ## Behind all others -/

theorem placeByKey_of_above {α : Type} {key : α → Int} {a : α} {entries : List α}
    (above : ∀ b ∈ entries, key b < key a) : placeByKey key a entries = entries ++ [a] := by
  induction entries with
  | nil => rfl
  | cons b rest ih =>
    obtain ⟨first, later⟩ := List.forall_mem_cons.mp above
    rw [placeByKey, if_neg (by omega), if_neg (by omega), ih later, List.cons_append]

namespace Ledger

/-- A loan that is created in a numbered ledger stands behind all others. -/
theorem Numbered.toList_create {l : Ledger} (h : l.Numbered) (draft : LoanDraft) :
    (l.create draft).2.loans.toList = l.loans.toList ++ [(l.create draft).1] :=
  placeByKey_of_above h

/-- Creating a loan is entering it with the next number. -/
theorem create_eq_insert (l : Ledger) (draft : LoanDraft) :
    (l.create draft).2 = l.insert (l.create draft).1 := by
  have next : l.nextId + 1 = max l.nextId (l.nextId + 1) := by omega
  exact congrArg (Ledger.mk (l.create draft).2.loans) next

/-! ## Loans one after the other -/

/-- The ledger into which loans came one after the other. -/
def ofLoans (loans : List Loan) : Ledger := loans.foldl insert empty

theorem ofLoans_snoc (loans : List Loan) (loan : Loan) :
    ofLoans (loans ++ [loan]) = (ofLoans loans).insert loan := List.foldl_append

/-- The loan that came last with a number. -/
def latest? (loans : List Loan) (id : LoanId) : Option Loan :=
  loans.reverse.find? fun loan => loan.id = id

theorem built_ofLoans (loans : List Loan) : Built (ofLoans loans) := by
  induction loans using List.reverseRecOn with
  | nil => exact .empty
  | append_singleton loans loan ih =>
    rw [ofLoans_snoc]
    exact ih.insert loan

/-- The next number is the least one from 1 on that is above all numbers that came in. -/
theorem isLeast_nextId (loans : List Loan) :
    IsLeast {n | 1 ≤ n ∧ ∀ loan ∈ loans, loan.id.value < n} (ofLoans loans).nextId := by
  induction loans using List.reverseRecOn with
  | nil => exact ⟨⟨Int.le_refl 1, fun _ mem => absurd mem List.not_mem_nil⟩, fun n free => free.1⟩
  | append_singleton loans loan ih =>
    obtain ⟨⟨first, above⟩, least⟩ := ih
    rw [ofLoans_snoc]
    show IsLeast _ (max (ofLoans loans).nextId (loan.id.value + 1))
    refine ⟨⟨by omega, List.forall_mem_append.mpr ⟨fun other mem => ?_, ?_⟩⟩, ?_⟩
    · have := above other mem
      omega
    · exact List.forall_mem_singleton.mpr (by omega)
    · rintro n ⟨positive, free⟩
      obtain ⟨earlier, last⟩ := List.forall_mem_append.mp free
      have before : (ofLoans loans).nextId ≤ n := least ⟨positive, earlier⟩
      have behind : loan.id.value < n := last loan (List.mem_singleton_self loan)
      omega

/-- The next number fits into a word as long as no number in use is the greatest. -/
theorem fits64_nextId_iff (loans : List Loan) :
    Fits64 (ofLoans loans).nextId ↔ ∀ loan ∈ loans, loan.id.value < 9223372036854775807 := by
  obtain ⟨⟨first, above⟩, least⟩ := isLeast_nextId loans
  constructor
  · rintro ⟨-, fits⟩ loan mem
    have := above loan mem
    omega
  · intro below
    have bound : (ofLoans loans).nextId ≤ 9223372036854775807 := least ⟨by decide, below⟩
    exact ⟨by omega, by omega⟩

/-- Under each number stands the loan that came last with it. -/
theorem find?_ofLoans (loans : List Loan) (id : LoanId) :
    (ofLoans loans).find? id = latest? loans id := by
  induction loans using List.reverseRecOn with
  | nil => rfl
  | append_singleton loans loan ih =>
    rw [ofLoans_snoc, insert, find?_put, ih, latest?, latest?, List.reverse_concat]
    by_cases same : loan.id = id
    · rw [if_pos same.symm, List.find?_cons_of_pos (by simpa using same)]
    · rw [if_neg (Ne.symm same), List.find?_cons_of_neg (by simpa using same)]

end Ledger

/-! ## Loans at the desk -/

/-- What is done with the loans in memory. -/
inductive Intake where
  /-- Enter a loan with the number that it has. -/
  | insert (loan : Loan)
  /-- Ask for a new loan. -/
  | create (draft : LoanDraft)
  /-- From now on no loan can be created, or can be again. -/
  | failCreates (on : Bool)

namespace Desk

/-- The loan that comes into memory, if one does, and the desk after it. -/
def takeIn (d : Desk) : Intake → Option Loan × Desk
  | .insert loan => (some loan, { d with ledger := d.ledger.insert loan })
  | .create draft =>
    let (answer, d') := d.answerStore (.createLoan draft)
    (Except.toOption answer, d')
  | .failCreates on => (none, { d with faults := { d.faults with failCreates := on } })

/-- The loans that come into memory one after the other, and the desk after them. -/
def takeInAll (d : Desk) : List Intake → List Loan × Desk
  | [] => ([], d)
  | i :: rest =>
    let (loan, d') := d.takeIn i
    let (loans, d'') := d'.takeInAll rest
    (loan.toList ++ loans, d'')

theorem createLoan_of_failing {d : Desk} (failing : d.faults.failCreates = true) (draft : LoanDraft) :
    d.answerStore (.createLoan draft) = (.error loansUnavailable, d) := if_pos failing

theorem createLoan_of_working {d : Desk} (working : d.faults.failCreates = false) (draft : LoanDraft) :
    d.answerStore (.createLoan draft) =
      (.ok (d.ledger.create draft).1, { d with ledger := (d.ledger.create draft).2 }) := by
  show (if d.faults.failCreates = true then _ else _) = _
  rw [working]
  rfl

/-- What comes into memory is entered into the ledger. -/
theorem ledger_takeIn (d : Desk) (i : Intake) :
    (d.takeIn i).2.ledger = (d.takeIn i).1.toList.foldl Ledger.insert d.ledger := by
  cases i with
  | insert loan => rfl
  | failCreates on => rfl
  | create draft =>
    cases flag : d.faults.failCreates with
    | true =>
      simp only [takeIn, createLoan_of_failing flag]
      rfl
    | false =>
      simp only [takeIn, createLoan_of_working flag]
      exact Ledger.create_eq_insert d.ledger draft

theorem ledger_takeInAll (d : Desk) (intakes : List Intake) :
    (d.takeInAll intakes).2.ledger = (d.takeInAll intakes).1.foldl Ledger.insert d.ledger := by
  induction intakes generalizing d with
  | nil => rfl
  | cons i rest ih =>
    show ((d.takeIn i).2.takeInAll rest).2.ledger =
      ((d.takeIn i).1.toList ++ ((d.takeIn i).2.takeInAll rest).1).foldl Ledger.insert d.ledger
    rw [ih, ledger_takeIn, List.foldl_append]

/-- Whatever loans are entered and created one after the other, and whichever calls fail: the next
number is the least one from 1 on that is above every number that was ever in use, and fits into a word
as long as none of those is the greatest. A loan that is created then gets this number, which no loan
had, and stands behind the others, which stay as they are; a call that fails changes nothing. The loans
stand in the order of their numbers, each under its own, and each is the last that came with it. -/
theorem numbers_of_intakes (d : Desk) (intakes : List Intake) :
    let found := ({ d with ledger := .empty } : Desk).takeInAll intakes
    let stored := found.1
    let now := found.2
    IsLeast {n | 1 ≤ n ∧ ∀ loan ∈ stored, loan.id.value < n} now.ledger.nextId ∧
      (Fits64 now.ledger.nextId ↔ ∀ loan ∈ stored, loan.id.value < 9223372036854775807) ∧
      (∀ draft, now.faults.failCreates = false →
        ∃ loan later, now.answerStore (.createLoan draft) = (.ok loan, later) ∧
          loan = draft.toLoan ⟨now.ledger.nextId⟩ ∧ (∀ other ∈ stored, other.id ≠ loan.id) ∧
          later.ledger.loans.toList = now.ledger.loans.toList ++ [loan]) ∧
      (∀ draft, now.faults.failCreates = true →
        now.answerStore (.createLoan draft) = (.error loansUnavailable, now)) ∧
      (now.ledger.loans.toList.map (·.id.value)).Pairwise (· < ·) ∧
      (∀ id loan, now.ledger.find? id = some loan ↔ loan ∈ now.ledger.loans.toList ∧ loan.id = id) ∧
      ∀ id, now.ledger.find? id = Ledger.latest? stored id := by
  intro found stored now
  have entered : now.ledger = Ledger.ofLoans stored := ledger_takeInAll _ intakes
  have numbered : now.ledger.Numbered := entered ▸ (Ledger.built_ofLoans stored).numbered
  have least : IsLeast {n | 1 ≤ n ∧ ∀ loan ∈ stored, loan.id.value < n} now.ledger.nextId :=
    entered ▸ Ledger.isLeast_nextId stored
  refine ⟨least, ?_, ?_, fun draft failing => createLoan_of_failing failing draft,
    List.pairwise_map.mpr now.ledger.loans.ascending, fun id loan => Ledger.find?_eq_some_iff, ?_⟩
  · rw [entered]
    exact Ledger.fits64_nextId_iff stored
  · intro draft working
    refine ⟨_, _, createLoan_of_working working draft, rfl, ?_, numbered.toList_create draft⟩
    intro other mem same
    have below : other.id.value < now.ledger.nextId := least.1.2 other mem
    rw [same] at below
    exact absurd below (Int.lt_irrefl _)
  · intro id
    rw [entered]
    exact Ledger.find?_ofLoans stored id

/-- A number below 1 does not count, one in the middle leaves a gap, and nothing comes of a call that
fails. -/
example :
    let seed (n : Int) : Loan := { (default : Loan) with id := ⟨n⟩ }
    ((default : Desk).takeInAll [.insert (seed (-3)), .create default, .insert (seed 5),
        .failCreates true, .create default, .failCreates false, .insert (seed 1),
        .create default]).1.map (·.id.value) = [-3, 1, 5, 1, 6] := by
  decide

end Desk

end Circulation
