import PooledSql.Number.Layout
import PooledSql.Text.Hex
import PooledSql.Text.Utf8

/-!
# Values

A literal of a predicate, or a field of a row that was read back.
-/

namespace PooledSql

/-- A database value: `types::value::Value`. -/
inductive Value
  | null
  | boolean (b : Bool)
  | integer (n : Int64)
  | real (d : Double)
  | text (s : String)
  | blob (bytes : List UInt8)
deriving DecidableEq, Repr

namespace Value

/-- The absent value: `types::value::Value::is_null`. -/
def isNull : Value → Bool
  | .null => true
  | _ => false

/-- A value as messages show it: text as it is, and a byte string as `\x` and its digits (the
`Display` of `types::value::Value`). -/
def display : Value → String
  | .null => "NULL"
  | .boolean b => if b then "true" else "false"
  | .integer n => toString n.toInt
  | .real d => d.display
  | .text s => s
  | .blob bytes => "\\x" ++ String.ofList (Text.Hex.encode bytes)

/-- Equality of values of one kind; values of different kinds differ, and reals are equal as
numbers: the derived equality of `types::value::Value`. -/
def same : Value → Value → Bool
  | .real a, .real b => a.same b
  | a, b => a == b

/-- The text value that stored bytes are read as: `types::value::Value::from_sqlite`, on text. -/
def ofStoredText (bytes : List UInt8) : Value :=
  .text (String.ofList (Text.Utf8.repair bytes))

end Value

/-- The declared type of a column: `types::ColumnType`. -/
inductive ColumnType
  | boolean
  | integer
  | bigInteger
  | real
  | text
  | blob
deriving DecidableEq, Repr

/-- The column types in order of declaration. -/
def ColumnType.all : List ColumnType := [.boolean, .integer, .bigInteger, .real, .text, .blob]

/-- The type that comes back for a column of a declared type: the declared one
(`session::database::Database::retrievable_column_type`). -/
def ColumnType.retrieved (declared : ColumnType) : ColumnType := declared

end PooledSql
