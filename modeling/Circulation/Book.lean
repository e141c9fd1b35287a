/- # Circulation.Book -- a book and its stock

A book has a number of copies in all and a number of copies on the shelf. Taking a copy needs one on
the shelf; restocking needs one missing. Neither step looks at anything else, so a record whose
counts contradict each other is never made worse.
-/
import Circulation.Identity

namespace Circulation

/-- A book of the catalogue with its stock. -/
structure Book where
  id : BookId
  title : String
  totalCopies : Int
  availableCopies : Int
deriving DecidableEq, Inhabited

/-- Why a stock step is refused. -/
inductive StockError where
  | noCopiesAvailable
  | fullyStocked
deriving DecidableEq

namespace Book

/-- The book with one copy less on the shelf. -/
def takeCopy (b : Book) : Except StockError Book :=
  if b.availableCopies < 1 then .error .noCopiesAvailable
  else .ok { b with availableCopies := b.availableCopies - 1 }

/-- The book with one copy more on the shelf. -/
def restockCopy (b : Book) : Except StockError Book :=
  if b.totalCopies ≤ b.availableCopies then .error .fullyStocked
  else .ok { b with availableCopies := b.availableCopies + 1 }

/-! ## Steps in a row -/

/-- One of the two stock steps. -/
inductive StockStep where
  | take
  | restock
deriving DecidableEq

/-- The outcome of a stock step. -/
def stockStep (b : Book) : StockStep → Except StockError Book
  | .take => b.takeCopy
  | .restock => b.restockCopy

/-- The book after a step; a refused step leaves it as it is. -/
def afterStep (b : Book) (s : StockStep) : Book :=
  match b.stockStep s with
  | .ok b' => b'
  | .error _ => b

/-- The outcomes of steps that each start from the book the step before left. -/
def outcomes (b : Book) : List StockStep → List (Except StockError Book)
  | [] => []
  | s :: rest => b.stockStep s :: (b.afterStep s).outcomes rest

/-- The book after a sequence of steps. -/
def afterSteps (b : Book) (steps : List StockStep) : Book := steps.foldl afterStep b

/-! ## Laws of one step -/

theorem takeCopy_of_lt {b : Book} (h : b.availableCopies < 1) :
    b.takeCopy = .error .noCopiesAvailable := if_pos h

theorem takeCopy_of_le {b : Book} (h : 1 ≤ b.availableCopies) :
    b.takeCopy = .ok { b with availableCopies := b.availableCopies - 1 } :=
  if_neg (by omega)

theorem restockCopy_of_le {b : Book} (h : b.totalCopies ≤ b.availableCopies) :
    b.restockCopy = .error .fullyStocked := if_pos h

theorem restockCopy_of_lt {b : Book} (h : b.availableCopies < b.totalCopies) :
    b.restockCopy = .ok { b with availableCopies := b.availableCopies + 1 } :=
  if_neg (by omega)

end Book

end Circulation
