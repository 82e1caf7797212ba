import PooledSql.Sqlite.Pages.Record

/-!
# Entries

A page holds entries. In the pages of a table there is an entry for each row, under the number of
the row, and in those of an index one for each row as well, under the values that the row has in the
columns of the index and then under its number. Absent values come first.

An entry that is long has only a part of itself in the page, and the rest on pages of its own.
-/

namespace PooledSql.Sqlite.Pages

/-! ## Keys -/

/-- How the values of a column stand in an index. -/
structure KeyColumn where
  collation : Collation
  descends : Bool
deriving DecidableEq, Repr

/-- How two values stand to each other in an index, where absent values come first. -/
def KeyColumn.order (c : KeyColumn) (a b : Datum) : Ordering :=
  let o := (Sqlite.order c.collation a b).getD (compare (!a.isNull).toNat (!b.isNull).toNat)
  if c.descends then o.swap else o

/-- How two lists of values stand to each other in an index. -/
def orderBy : List KeyColumn → List Datum → List Datum → Ordering
  | c :: columns, a :: r, b :: s => (c.order a b).then (orderBy columns r s)
  | _, _, _ => .eq

/-- What an entry is found by. -/
structure Key where
  number : Int
  values : List Datum := []
deriving DecidableEq, Repr

/-- What pages are there for: the rows of a table, or an index. -/
inductive Kind
  | table
  | index (columns : List KeyColumn)
deriving DecidableEq, Repr

namespace Kind

/-- The pages are those of a table. -/
def isTable : Kind → Bool
  | .table => true
  | .index _ => false

/-- How two keys stand to each other. -/
def order (k : Kind) (a b : Key) : Ordering :=
  match k with
  | .table => compare a.number b.number
  | .index columns => (orderBy columns a.values b.values).then (compare a.number b.number)

/-- How much of a record is in the page at most. -/
def mostInPage : Kind → Nat
  | .table => 4061
  | .index _ => 1002

/-- How much of a record is in the page at least. -/
def leastInPage : Nat := 489

/-- How much of a record there is on each further page. -/
def spillSize : Nat := 4092

/-- How much of a record of some length is in the page. If all does not fit, the further pages are
to be full, as far as there is room for what is left then. -/
def inPage (k : Kind) (payload : Nat) : Nat :=
  if payload ≤ k.mostInPage then payload
  else
    let left := leastInPage + (payload - leastInPage) % spillSize
    if left ≤ k.mostInPage then left else leastInPage

/-- How many further pages a record of some length takes. -/
def spillCount (k : Kind) (payload : Nat) : Nat :=
  (payload - k.inPage payload + (spillSize - 1)) / spillSize

end Kind

/-! ## Entries -/

/-- An entry in a page. -/
structure Entry where
  key : Key
  /-- How long its record is. -/
  payload : Nat := 0
  /-- How many bytes of the page it takes. -/
  size : Nat
  /-- The pages with the rest of its record. -/
  spill : List Nat := []
deriving DecidableEq, Repr

namespace Entry

/-- The entry of a record of some length, before there are pages for the rest of it. -/
def ofRecord (k : Kind) (key : Key) (payload : Nat) : Entry :=
  let number := if k.isTable then numberWidth key.number else 0
  let link := if k.inPage payload < payload then 4 else 0
  { key, payload, size := countWidth payload + number + k.inPage payload + link }

/-- The entry that stands between two pages of a table: what comes before it has no greater number.
-/
def divider (key : Key) : Entry := { key, size := numberWidth key.number }

end Entry

end PooledSql.Sqlite.Pages
