/- # Circulation.Store.Shelf -- books in memory

The books of the catalogue with their stock, kept by number. Writing a book back replaces the whole
record, and happens only if there is one.
-/
import Circulation.Book
import Circulation.Store.Register

namespace Circulation

/-- Books by number. -/
abbrev Shelf := Register Book fun b => b.id.value

namespace Shelf

/-- The book with a number. -/
def find? (s : Shelf) (id : BookId) : Option Book := s.get? id.value

/-- Write a book back under its number. The answer says whether there was one. -/
def save (s : Shelf) (b : Book) : Bool × Shelf :=
  if (s.find? b.id).isSome then (true, s.put b) else (false, s)

end Shelf

end Circulation
