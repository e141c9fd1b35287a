/- # Circulation.Database.Reply -- what a database replies

A reply has rows with named and typed columns, or says how many rows were changed, or is a failure.
A value is read by the name of its column, or from the first column, and its type must be the one
that is expected. Where no value can be made the client is at a loss; a word that should be the
status of a loan and is not is an error of its own, and so is a time beyond the last instant.
-/
import Circulation.Database.Query
import Circulation.Loan

namespace Circulation.Database

open Time (Instant)

/-! ## Replies -/

/-- The type of a column, as the server names it. -/
inductive ColumnType where
  | bool
  | int8
  | int4
  | text
  | varchar
  | timestamptz
deriving DecidableEq

/-- What the server replies. -/
inductive Reply where
  | rows (columns : List (String × ColumnType)) (rows : List (List Cell))
  | affected (count : Nat)
  /-- An error of the database, or a lost connection. -/
  | failed
deriving DecidableEq

/-- Why a call has no result. -/
inductive DatabaseError where
  /-- The client could not make anything of the reply, or there was none. -/
  | client
  | badStatus (word : String)
  /-- A time lies outside the range of instants: the call breaks off and nobody is told why. -/
  | timeOutOfRange
deriving DecidableEq

namespace DatabaseError

/-- What a caller is told of an error; for errors of the client the text is the client's. -/
def message? (clientText : String) : DatabaseError → Option String
  | client => some clientText
  | badStatus word => some (LoanStatus.invalidMessage word)
  | timeOutOfRange => none

end DatabaseError

/-! ## Times -/

/-- The beginning of 2000, in seconds since 1970. -/
def timeOrigin : Int := 946684800

/-- An instant in microseconds, finer parts cut off toward the origin. -/
def ofInstant (t : Instant) : Cell :=
  .time (((t.seconds - timeOrigin) * 1000000000 + t.nanos).tdiv 1000)

/-- The instant of a time in microseconds. -/
def toInstant? (micros : Int) : Option Instant :=
  Instant.ofUnix? (timeOrigin + micros / 1000000) ((micros % 1000000).toNat * 1000)

/-! ## Reading cells -/

/-- A cell with the type of its column. -/
abbrev TypedCell := ColumnType × Cell

/-- What a cell, a row or a reply gives. -/
abbrev Reading := Except DatabaseError

/-- A value that the client must be able to make. -/
def orClient {α : Type} : Option α → Reading α
  | some a => .ok a
  | none => .error .client

/-- A whole number of sixty-four bits. -/
def readInt : TypedCell → Reading Int
  | (.int8, .int n) => .ok n
  | _ => .error .client

/-- A text. -/
def readText : TypedCell → Reading String
  | (.text, .text s) => .ok s
  | (.varchar, .text s) => .ok s
  | _ => .error .client

/-- A truth value. -/
def readBool : TypedCell → Reading Bool
  | (.bool, .bool b) => .ok b
  | _ => .error .client

/-- An instant. -/
def readInstant : TypedCell → Reading Instant
  | (.timestamptz, .time micros) =>
    match toInstant? micros with
    | some t => .ok t
    | none => .error .timeOutOfRange
  | _ => .error .client

/-- A value, or none if the cell is null, whatever the type of its column. -/
def readNullable {α : Type} (read : TypedCell → Reading α) : TypedCell → Reading (Option α)
  | (_, .null) => .ok none
  | cell => (read cell).map some

/-! ## Reading rows -/

/-- A row with the names and types of its columns. -/
abbrev Row := List (String × TypedCell)

/-- The rows of a reply; a reply to a change has none. -/
def rows? : Reply → Option (List Row)
  | .rows columns rows =>
    some (rows.map fun cells => (columns.zip cells).map fun ((name, type), cell) =>
      (name, type, cell))
  | .affected _ => some []
  | .failed => none

/-- The value in a column. If a name is there twice the last one counts. -/
def column {α : Type} (read : TypedCell → Reading α) (row : Row) (name : String) : Reading α := do
  read (← orClient (row.reverse.lookup name))

/-- The value in the first column. -/
def firstColumn {α : Type} (read : TypedCell → Reading α) (row : Row) : Reading α := do
  read (← orClient row.head?).2

/-! ## What a call needs of a reply -/

/-- The first row of a reply, if there is one. -/
def firstRow (reply : Reply) : Reading (Option Row) := do
  return (← orClient (rows? reply)).head?

/-- The first row of a reply, which must have one. -/
def someRow (reply : Reply) : Reading Row := do
  orClient (← firstRow reply)

/-- Whether a change changed anything. Rows do not say that they were changed. -/
def anyAffected : Reply → Reading Bool
  | .affected count => .ok (decide (0 < count))
  | .rows _ _ => .ok false
  | .failed => .error .client

end Circulation.Database
