/- # Circulation.Store.Ledger -- loans in memory

The loans by number, and the number that the next loan will get. A loan entered from outside pushes
that number beyond its own; a loan created here takes it. Settling changes a loan only if it is the
given user's and still borrowed.

Numbers are whole numbers here and have no bound. A machine keeps them in sixty-four bits, and a loan
that would push the next number out of them is not entered: the call breaks off and stores nothing.
-/
import Circulation.Loan
import Circulation.Store.Register

namespace Circulation

open Time (Instant)

/-- Loans by number, with the next number. Neither is bounded; that a machine counts in sixty-four bits
and breaks off at their end is left to the surroundings (`Rehearsal.World.brokenOff`), and
`Pool.run_counted` says what becomes of whole runs then. -/
structure Ledger where
  loans : Register Loan fun l => l.id.value
  nextId : Int

namespace Ledger

/-- No loans; numbers begin at 1. -/
def empty : Ledger := ⟨Register.empty, 1⟩

instance : Inhabited Ledger := ⟨empty⟩

/-- The loan with a number. -/
def find? (l : Ledger) (id : LoanId) : Option Loan := l.loans.get? id.value

/-- Enter a loan that has a number. -/
def insert (l : Ledger) (loan : Loan) : Ledger :=
  ⟨l.loans.put loan, max l.nextId (loan.id.value + 1)⟩

/-- Give a draft the next number and enter it. -/
def create (l : Ledger) (draft : LoanDraft) : Loan × Ledger :=
  let loan := draft.toLoan ⟨l.nextId⟩
  (loan, ⟨l.loans.put loan, l.nextId + 1⟩)

/-- Settle a loan. The answer says whether there was one to settle. -/
def markReturned (l : Ledger) (id : LoanId) (user : UserId) (at_ : Instant) : Bool × Ledger :=
  match l.find? id with
  | some loan =>
    if loan.userId = user ∧ loan.status = .borrowed then
      (true, { l with loans := l.loans.put (loan.settled at_) })
    else (false, l)
  | none => (false, l)

/-- Is this book out to this user? -/
def hasActive (l : Ledger) (user : UserId) (book : BookId) : Bool :=
  l.loans.any fun loan => loan.isActiveFor user book

end Ledger

end Circulation
