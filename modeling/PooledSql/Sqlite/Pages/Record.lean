import PooledSql.Sqlite.Values

/-!
# Records

A row is stored as a record: a header, which says of each value what kind it is and how long, and
then the values. Only the lengths of records matter here. Small numbers take fewer bytes than
greater ones, and zero and one none at all besides the header.
-/

namespace PooledSql.Sqlite.Pages

open Number (twoTo)

/-- How many bytes a count takes, seven bits in each of them, up to a number of further ones. -/
def countWidthWithin : Nat → Nat → Nat
  | 0, _ => 1
  | more + 1, n => if n < 128 then 1 else countWidthWithin more (n / 128) + 1

/-- How many bytes a count takes. The ninth of them holds eight bits. -/
def countWidth (n : Nat) : Nat := countWidthWithin 8 n

/-- How many bytes the number of a row takes. -/
def numberWidth (n : Int) : Nat := if n < 0 then 9 else countWidth n.toNat

/-- How many bytes an integer takes: as many as hold it, where five and seven are not possible. -/
def integerWidth (n : Int) : Nat :=
  let size : Int := if n < 0 then -(n + 1) else n
  let holds (bits : Nat) : Bool := decide (size < twoTo bits)
  if n = 0 ∨ n = 1 then 0
  else if holds 7 then 1
  else if holds 15 then 2
  else if holds 23 then 3
  else if holds 31 then 4
  else if holds 47 then 6
  else 8

/-- How many bytes the kind of a value takes in the header of a record. That of a text or a byte
string tells its length. -/
def kindWidth : Datum → Nat
  | .text s => countWidth (2 * s.length + 13)
  | .blob s => countWidth (2 * s.length + 12)
  | _ => 1

/-- How many bytes a value takes besides its kind. -/
def valueWidth : Datum → Nat
  | .null => 0
  | .integer n => integerWidth n.toInt
  | .real _ => 8
  | .text s => s.length
  | .blob s => s.length

/-- How many bytes a header takes, which tells its own length, given how many the kinds take. -/
def headerWidth (kinds : Nat) : Nat :=
  if kinds ≤ 126 then kinds + 1
  else
    let w := kinds + countWidth kinds
    if countWidth kinds < countWidth w then w + 1 else w

/-- How many bytes the record of some values takes. -/
def recordWidth (values : List Datum) : Nat :=
  headerWidth (values.foldl (fun n v => n + kindWidth v) 0) +
    values.foldl (fun n v => n + valueWidth v) 0

/-- A value as a column keeps it: in columns for reals, integers are kept as such. -/
def compact (a : Affinity) (v : Datum) : Datum :=
  match a, v with
  | .real, .real d => asInteger d
  | _, v => v

end PooledSql.Sqlite.Pages
