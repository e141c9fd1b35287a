/- # Circulation.Identity -- numbers of loans, books and users

Three kinds of numbers that must not be mixed up. A number is a whole number of sixty-four bits;
where it comes from decides whether it is positive.
-/
import Circulation.Decimal

namespace Circulation

/-- The number of a loan. -/
structure LoanId where
  value : Int
deriving DecidableEq, Inhabited

/-- The number of a book in the catalogue. -/
structure BookId where
  value : Int
deriving DecidableEq, Inhabited

/-- The number of a user. -/
structure UserId where
  value : Int
deriving DecidableEq, Inhabited

namespace LoanId

def text (id : LoanId) : String := Decimal.text id.value

end LoanId

namespace BookId

def text (id : BookId) : String := Decimal.text id.value

end BookId

namespace UserId

def text (id : UserId) : String := Decimal.text id.value

end UserId

end Circulation
