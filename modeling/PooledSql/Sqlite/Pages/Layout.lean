import PooledSql.Sqlite.Store

/-!
# Rows on pages

Each row of a table is on the pages of the table and on those of its indexes. What happens to rows
has its effect on these one after the other: first on the indexes, from the youngest on, but on
those by which rows make room for others only after the rest.
-/

namespace PooledSql.Sqlite

open Pages (Allocation Key Kind Tree)

/-- Something that happened to the rows of a table. -/
inductive RowChange
  | inserted (row : Row)
  /-- It went, and it may have been to make room for the row of a number. If it was found by the
  index at a place, that was the last to lose it. -/
  | removed (row : Row) (heir : Option Int) (found : Option Nat)
  /-- The columns at some places were given values. -/
  | changed (before after : Row) (places : List Nat)
  /-- All rows went at once. -/
  | emptied
deriving DecidableEq, Repr

/-- An index has a column at one of some places. -/
def Index.isTouched (index : Index) (places : List Nat) : Bool :=
  index.columns.any fun c => places.contains c.place

namespace StoredTable

/-- The places of the indexes in the order in which rows are entered into them. -/
def entryOrder (t : StoredTable) : List Nat :=
  let places := (List.range t.indexes.length).reverse
  let makesRoom (i : Nat) : Bool := t.indexes[i]?.any fun index => index.resolution == some .replace
  places.filter (fun i => !makesRoom i) ++ places.filter makesRoom

/-- What is kept of a row: not its number, and not the values that are made when they are asked
for. -/
def kept (t : StoredTable) (row : Row) : List Datum :=
  (t.columns.zip row.values).zipIdx.filterMap fun ((c, v), i) =>
    if !c.isKept then none
    else if t.key = some i then some .null
    else some (Pages.compact c.affinity v)

/-- The value of a row at a place, as it is kept. -/
def keptAt (t : StoredTable) (row : Row) (i : Nat) : Datum :=
  let v := row.values[i]?.getD .null
  (t.columns[i]?.map fun column => Pages.compact column.affinity v).getD v

/-- The values of a row in an index, as they are kept there. -/
def keptKey (t : StoredTable) (index : Index) (row : Row) : List Datum :=
  (t.entryColumns index).map (fun c => t.keptAt row c.place) ++
    (t.ifNumbered (Datum.ofInt row.number)).toList

/-- What is kept of a row in the index in whose order the rows are: first its columns, and then the
others. -/
def keptInOrder (t : StoredTable) (index : Index) (row : Row) : List Datum :=
  let first := index.columns.map IndexedColumn.place
  let isOther (i : Nat) : Bool := !first.contains i && t.columns[i]?.any StoredColumn.isKept
  (first ++ (List.range t.columns.length).filter isOther).map (t.keptAt row)

/-- Works on the pages of the table or, at the place after that of an index, on those of the index.
-/
def onTree (t : StoredTable) (i : Nat) (work : Tree → Allocation Tree) : Allocation StoredTable :=
  match t.trees[i]? with
  | none => pure t
  | some tree => do return { t with trees := t.trees.set i (← work tree) }

/-- What an index finds a row by. -/
def keyIn (t : StoredTable) (index : Index) (row : Row) : Key := ⟨row.number, t.valuesIn index row⟩

/-- How the rows of the table are found on its pages. -/
def rowKind (t : StoredTable) : Kind :=
  t.orderingIndex?.elim .table fun index => .index (t.keyColumns index)

/-- What a row is found by on the pages of the table. -/
def rowKey (t : StoredTable) (row : Row) : Key :=
  t.orderingIndex?.elim ⟨row.number, []⟩ fun index => t.keyIn index row

/-- Takes a row off the pages of the table. -/
def eraseRow (t : StoredTable) (row : Row) : Allocation StoredTable :=
  t.onTree 0 fun tree => tree.erase t.rowKind (t.rowKey row)

/-- Writes a row onto the pages of the table. -/
def writeRow (t : StoredTable) (row : Row) : Allocation StoredTable :=
  let values := t.orderingIndex?.elim (t.kept row) fun index => t.keptInOrder index row
  t.onTree 0 fun tree => tree.write t.rowKind (t.rowKey row) (Pages.recordWidth values)

/-- Works on the indexes whose places fulfil a condition, one after the other, but not on the one in
whose order the rows are. -/
def onIndexes (t : StoredTable) (concerns : Nat → Bool)
    (work : Index → Kind → Tree → Allocation Tree) : Allocation StoredTable :=
  (t.entryOrder.filter fun i => t.ordering != some i && concerns i).foldlM (fun t i =>
    match t.indexes[i]? with
    | none => pure t
    | some index => t.onTree (i + 1) (work index (.index (t.keyColumns index)))) t

/-- Enters a row into indexes. -/
def writeKeys (t : StoredTable) (concerns : Nat → Bool) (row : Row) : Allocation StoredTable :=
  t.onIndexes concerns fun index kind tree =>
    tree.write kind (t.keyIn index row) (Pages.recordWidth (t.keptKey index row))

/-- Takes a row out of indexes. -/
def eraseKeys (t : StoredTable) (concerns : Nat → Bool) (row : Row) : Allocation StoredTable :=
  t.onIndexes concerns fun index kind tree => tree.erase kind (t.keyIn index row)

/-- Brings to the pages what happened to rows. A row that makes room for another one of its number
is written over, and so is one that keeps its number, unless they are to go first. -/
def lay (t : StoredTable) (goesFirst : Bool) (change : RowChange) : Allocation StoredTable :=
  match change with
  | .inserted row => do (← t.writeKeys (fun _ => true) row).writeRow row
  | .removed row heir found => do
    let stays := !goesFirst && found.isNone && heir == some row.number
    let t ← t.eraseKeys (fun i => found != some i) row
    let t ← if stays then pure t else t.eraseRow row
    t.eraseKeys (fun i => found == some i) row
  | .changed before after places => do
    let isNew := goesFirst || before.number != after.number || t.key.any places.contains ||
      t.orderingIndex?.any fun index => index.isTouched places
    let concerns (i : Nat) : Bool :=
      isNew || t.indexes[i]?.any fun index => index.isTouched places
    let t ← t.eraseKeys concerns before
    let t ← if isNew || !t.isNumbered then t.eraseRow before else pure t
    (← t.writeKeys concerns after).writeRow after
  | .emptied => do
    (← t.onTree 0 Tree.clear).onIndexes (fun _ => true) fun _ _ => Tree.clear

end StoredTable

end PooledSql.Sqlite
