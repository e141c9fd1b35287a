/- # Circulation.Rehearsal.Injection -- store calls that are made to fail

In front of the stores a call of each kind can be made to fail with a given text before the store
hears of it, and the write of a book can be answered as if there were no such book.
-/
import Circulation.Store.Desk

namespace Circulation.Rehearsal

/-- The kinds of calls to the stores. -/
inductive StorePoint where
  | findBook
  | saveBook
  | findLoan
  | createLoan
  | markReturned
  | hasActiveLoan
deriving DecidableEq

/-- The kind of a call. -/
def StorePoint.of : StoreCall → StorePoint
  | .findBook _ => findBook
  | .saveBook _ => saveBook
  | .findLoan _ => findLoan
  | .createLoan _ => createLoan
  | .markReturned .. => markReturned
  | .hasActiveLoan .. => hasActiveLoan

/-- The kinds that fail, each with its text, and whether writes of books find nothing. -/
structure Injection where
  failing : List (StorePoint × String)
  rejectSaves : Bool

namespace Injection

/-- Nothing is made to fail. -/
def none : Injection := ⟨[], false⟩

/-- Make calls of a kind fail with a text, or let them through again. -/
def set (i : Injection) (point : StorePoint) (text : Option String) : Injection :=
  { i with failing := text.toList.map (point, ·) ++ i.failing.filter (·.1 ≠ point) }

/-- The text that calls of a kind fail with. -/
def text? (i : Injection) (point : StorePoint) : Option String := i.failing.lookup point

/-- Answer a call to the stores, unless it is made to fail. -/
def answer (i : Injection) (c : StoreCall) (d : Desk) : c.Answer × Desk :=
  match i.text? (.of c) with
  | some text => (.error ⟨text⟩, d)
  | .none =>
    match c with
    | .saveBook b => if i.rejectSaves then (.ok false, d) else d.answerStore (.saveBook b)
    | c => d.answerStore c

end Injection

end Circulation.Rehearsal
