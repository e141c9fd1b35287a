/- # Circulation.Wire.Book -- records of books

The fields of a book are `id`, `title`, `total_copies` and `available_copies`, and all must be
there.
-/
import Circulation.Book
import Circulation.Wire.Field

namespace Circulation.Book

/-- The book in a tree. -/
def ofJson? (j : Json) : Option Book := do
  match ← j.slots? ["id", "title", "total_copies", "available_copies"] 4 with
  | [id, title, total, available] =>
    let id ← Json.required Wire.bookId? id
    let title ← Json.required Json.text? title
    let total ← Json.required Json.int? total
    let available ← Json.required Json.int? available
    return ⟨id, title, total, available⟩
  | _ => none

/-- The book as a tree. -/
def toJson (b : Book) : Json :=
  .object [Json.entry "id" (Wire.ofBookId b.id),
    Json.entry "title" (Json.ofText b.title),
    Json.entry "total_copies" (Json.ofInt b.totalCopies),
    Json.entry "available_copies" (Json.ofInt b.availableCopies)]

/-- The book that a message holds. -/
def decode? (message : Bytes) : Option Book := (Json.read? message).bind ofJson?

/-- The message that holds a book. -/
def encode (b : Book) : Bytes := b.toJson.render

end Circulation.Book
