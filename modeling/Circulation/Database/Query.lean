/- # Circulation.Database.Query -- statements to a database

A statement is a query with parameters. A query is kept as what it asks for -- which columns of
which table, under which conditions -- and `Query.sql` is its text. Conditions compare a column with
a parameter or ask whether it is null, and all of them must hold.
-/
import Circulation.Decimal

namespace Circulation.Database

/-! ## Cells -/

/-- A value in a statement or in a row. -/
inductive Cell where
  | null
  | bool (value : Bool)
  | int (value : Int)
  | text (value : String)
  /-- Microseconds since the beginning of 2000. -/
  | time (micros : Int)
deriving DecidableEq

/-! ## Queries -/

/-- A value that a query writes: a parameter by its place, counted from 1, or null. -/
inductive Operand where
  | param (place : Nat)
  | null
deriving DecidableEq

/-- A condition on a row. -/
inductive Condition where
  /-- The column holds the parameter at this place. -/
  | equals (column : String) (place : Nat)
  | isNull (column : String)
deriving DecidableEq

/-- Something asked of one table. -/
inductive Query where
  /-- These columns of the rows that meet the conditions. -/
  | select (columns : List String) (table : String) (conditions : List Condition)
  /-- Write the operands into the columns of the rows that meet the conditions. -/
  | update (table : String) (changes : List (String × Operand)) (conditions : List Condition)
  /-- Add a row, and give one of its columns back. -/
  | insert (table : String) (values : List (String × Operand)) (returning : String)
  /-- Whether some row meets the conditions. -/
  | exist (table : String) (conditions : List Condition)
deriving DecidableEq

/-! ## Text -/

namespace Operand

/-- The text of an operand. -/
def sql : Operand → String
  | param place => "$" ++ Decimal.text place
  | null => "NULL"

end Operand

namespace Condition

/-- The text of a condition. -/
def sql : Condition → String
  | equals column place => column ++ " = " ++ (Operand.param place).sql
  | isNull column => column ++ " IS NULL"

end Condition

namespace Query

/-- Names or operands with commas between them. -/
def commas (items : List String) : String := String.intercalate ", " items

/-- The text of conditions. -/
def whereSql (conditions : List Condition) : String :=
  " WHERE " ++ String.intercalate " AND " (conditions.map Condition.sql)

/-- The text of a query. -/
def sql : Query → String
  | select columns table conditions =>
    "SELECT " ++ commas columns ++ " FROM " ++ table ++ whereSql conditions
  | update table changes conditions =>
    "UPDATE " ++ table ++ " SET " ++
      commas (changes.map fun (column, operand) => column ++ " = " ++ operand.sql) ++
      whereSql conditions
  | insert table values returning =>
    "INSERT INTO " ++ table ++ " (" ++ commas (values.map (·.1)) ++ ") VALUES (" ++
      commas (values.map (·.2.sql)) ++ ") RETURNING " ++ returning
  | exist table conditions =>
    "SELECT EXISTS ( SELECT 1 FROM " ++ table ++ whereSql conditions ++ " )"

end Query

/-- A query with its parameters. -/
structure Statement where
  query : Query
  params : List Cell
deriving DecidableEq

end Circulation.Database
