/- # Circulation.Database.Table -- what statements mean

A table has typed columns and rows, and a number for the next row. A query on it is carried out as
its text says: a row counts if it meets every condition, an unknown parameter or column meets none,
and null equals nothing, not even null. A row that is added gets the next number in the column that
is not written.
-/
import Circulation.Database.Reply

namespace Circulation.Database

/-- A row by its columns. -/
abbrev Record := List (String × Cell)

/-- Rows under typed columns. -/
structure Table where
  columns : List (String × ColumnType)
  /-- The column that numbers the rows. -/
  key : String
  rows : List Record
  nextKey : Int

namespace Table

/-! ## Conditions and operands -/

/-- The parameter at a place, counted from 1. -/
def param? (params : List Cell) (place : Nat) : Option Cell :=
  if place = 0 then none else params[place - 1]?

/-- The value of an operand; a parameter that is not there is null. -/
def valueOf (params : List Cell) : Operand → Cell
  | .param place => (param? params place).getD .null
  | .null => .null

/-- The row meets the condition. -/
def meets (params : List Cell) (row : Record) : Condition → Bool
  | .equals column place =>
    match row.lookup column, param? params place with
    | some cell, some value => cell ≠ .null && cell == value
    | _, _ => false
  | .isNull column => row.lookup column == some .null

/-- The row meets all conditions. -/
def meetsAll (params : List Cell) (conditions : List Condition) (row : Record) : Bool :=
  conditions.all (meets params row)

/-! ## Queries -/

/-- The type of a column. -/
def typeOf (t : Table) (column : String) : ColumnType := (t.columns.lookup column).getD .text

/-- A column with its type. -/
def heading (t : Table) (column : String) : String × ColumnType := (column, t.typeOf column)

/-- The cell in a column; what is not there is null. -/
def cell (row : Record) (column : String) : Cell := (row.lookup column).getD .null

/-- The row with values written into some of its columns. -/
def write (params : List Cell) (changes : List (String × Operand)) (row : Record) : Record :=
  row.map fun (column, old) => (column, ((changes.lookup column).map (valueOf params)).getD old)

/-- The row that is added. -/
def newRow (t : Table) (params : List Cell) (values : List (String × Operand)) : Record :=
  t.columns.map fun (column, _) =>
    (column, if column = t.key then .int t.nextKey
      else ((values.lookup column).map (valueOf params)).getD .null)

/-- Carry out a query on the table that it names. -/
def run (t : Table) (s : Statement) : Reply × Table :=
  match s.query with
  | .select columns _ conditions =>
    (.rows (columns.map t.heading)
      ((t.rows.filter (meetsAll s.params conditions)).map fun row => columns.map (cell row)), t)
  | .update _ changes conditions =>
    let rows := t.rows.map fun row =>
      if meetsAll s.params conditions row then write s.params changes row else row
    (.affected (t.rows.countP (meetsAll s.params conditions)), { t with rows })
  | .insert _ values returning =>
    let row := t.newRow s.params values
    (.rows [t.heading returning] [[cell row returning]],
      { t with rows := t.rows ++ [row], nextKey := t.nextKey + 1 })
  | .exist _ conditions =>
    (.rows [("exists", .bool)] [[.bool (t.rows.any (meetsAll s.params conditions))]], t)

end Table

end Circulation.Database
