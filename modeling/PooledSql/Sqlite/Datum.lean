import PooledSql.Sqlite.Numeral
import PooledSql.Value

/-!
# Stored values

What storage keeps: it has no booleans and no reals beyond the finite ones in its literals, and its
texts are bytes that nobody checks. Texts are made into characters only when they are read back.
-/

namespace PooledSql.Sqlite

/-- A stored value. -/
inductive Datum
  | null
  | integer (n : Int64)
  | real (d : Double)
  | text (bytes : List UInt8)
  | blob (bytes : List UInt8)
deriving DecidableEq, Repr

namespace Datum

/-- The absent value. -/
def isNull : Datum → Bool
  | .null => true
  | _ => false

/-- What messages call the kind of a value. -/
def kindName : Datum → String
  | .null => "NULL"
  | .integer _ => "INT"
  | .real _ => "REAL"
  | .text _ => "TEXT"
  | .blob _ => "BLOB"

/-- A text. -/
def ofText (s : String) : Datum := .text s.toUTF8.toList

/-- A text of characters. -/
def ofCharacters (s : List Char) : Datum := ofText (String.ofList s)

/-- An integer that fits into sixty-four bits. -/
def ofInt (n : Int) : Datum := .integer (Int64.ofInt n)

/-- A count. -/
def ofNat (n : Nat) : Datum := .integer (Int64.ofNat n)

/-- One or zero. -/
def ofBool (b : Bool) : Datum := .integer (if b then 1 else 0)

/-- Bytes as characters, one for each. -/
def letters (bytes : List UInt8) : List Char := bytes.map fun b => Char.ofNat b.toNat

/-- What is read back. -/
def toValue : Datum → Value
  | .null => .null
  | .integer n => .integer n
  | .real d => .real d
  | .text bytes => Value.ofStoredText bytes
  | .blob bytes => .blob bytes

/-- The real that a finite real is read as once it was written as a literal. -/
def reread (d : Double) : Double :=
  ((Numeral.read? (Number.Layout.literal.write d)).map Numeral.toDouble).getD d

/-- What a literal stands for: a boolean is one or zero, and what is no finite number is absent. -/
def ofValue : Value → Datum
  | .null => .null
  | .boolean b => ofBool b
  | .integer n => .integer n
  | .real d => if d.isFinite then .real (reread d) else .null
  | .text s => ofText s
  | .blob bytes => .blob bytes

end Datum

end PooledSql.Sqlite
