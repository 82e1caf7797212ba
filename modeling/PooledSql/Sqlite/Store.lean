import PooledSql.Error
import PooledSql.Sqlite.Declaration.Reader
import PooledSql.Sqlite.Pages.Tree
import PooledSql.Sqlite.Plan.Estimate

/-!
# Tables in storage

Every row has a number, and rows are kept in the order of their numbers. A column that is declared
as the integer key of its table is that number by another name; without one, a new row gets the
number after the last. Names of tables and columns are the same in any letter case of ASCII.

The tables are listed in a table themselves, and so are the greatest numbers of rows, once there is
a table that does not use numbers again. Each table and each index begins at a page of its own,
which that list tells, and so pages are taken for what the tables hold.
-/

namespace PooledSql.Sqlite

open Pages (Tree Space Allocation KeyColumn)

/-- A row: its number and its values. -/
structure Row where
  number : Int
  values : List Datum
deriving DecidableEq, Repr

/-- A column in storage. -/
structure StoredColumn where
  name : String
  affinity : Affinity
  collation : Collation
  /-- It takes no absent values, and this is what happens to one. -/
  required : Option Resolution := none
  /-- What takes the place of an absent value. -/
  default : Option Formula := none
  /-- What makes its values. -/
  generator : Option Formula := none
  /-- Its values are kept in the rows, and not only made when they are asked for. -/
  isKept : Bool := true
  /-- How wide its values are taken to be. -/
  width : Nat := 1
  /-- What it takes, if its table is strict. -/
  strict : Option StrictType := none
deriving Repr

/-- A table in storage. -/
structure StoredTable where
  name : String
  columns : List StoredColumn
  /-- The place of the column that is the number of the row. -/
  key : Option Nat
  /-- What happens to a row whose number is taken. -/
  keyResolution : Resolution := .abort
  /-- The place of the index in whose order the rows are. Then their numbers only tell them apart. -/
  ordering : Option Nat := none
  /-- The indexes, from the oldest on. -/
  indexes : List Index := []
  checks : List Check := []
  /-- The references, from the youngest on. -/
  references : List Reference := []
  /-- The greatest number that a row has had, where the numbers of deleted rows are not used again.
  -/
  counter : Option Int
  /-- The text that created the table. -/
  text : String
  /-- The number of the row that lists it in the table of the tables. -/
  listing : Nat := 0
  /-- The pages of the table, and those of its indexes. The index in whose order the rows are has
  none of its own. -/
  trees : List Tree := []
  rows : List Row
deriving Repr

/-- The tables of a database, in order of creation, and its pages. -/
structure Store where
  tables : List StoredTable := []
  /-- The pages of the table of the tables. -/
  catalogTree : Tree := .empty 1
  space : Space := {}
deriving Repr

/-! ## Rows -/

/-- There is one row at most that has given values in all columns of an index, since an absent value
is not among several columns. -/
def Index.isDecisive (index : Index) : Bool := index.columns.length == 1 || index.isFull

/-- Puts a row in its place by number. -/
def place (row : Row) : List Row → List Row
  | [] => [row]
  | r :: rest => if row.number < r.number then row :: r :: rest else r :: place row rest

namespace StoredTable

/-- The names of the columns. -/
def columnNames (t : StoredTable) : List String := t.columns.map StoredColumn.name

/-- The place of the column of a name. -/
def columnPlace? (t : StoredTable) (name : String) : Option Nat :=
  t.columnNames.findIdx? (sameName name)

/-- The name of the column at a place. -/
def columnName (t : StoredTable) (i : Nat) : String :=
  (t.columns[i]?.map StoredColumn.name).getD rowNumberName

/-- The name of the column that is the number of the row, or else of that number itself. -/
def keyName (t : StoredTable) : String := (t.key.map t.columnName).getD rowNumberName

/-- The places of the columns that the values of the one at a place are made from. -/
def sources (t : StoredTable) (i : Nat) : List Nat :=
  ((t.columns[i]?.bind StoredColumn.generator).elim [] Formula.columnNames).filterMap
    t.columnPlace?

/-- The places of the columns whose values change with those of the one at a place. -/
def dependents (t : StoredTable) (i : Nat) : List Nat :=
  let places := List.range t.columns.length
  places.foldl (fun found _ =>
    places.filter fun j => found.contains j || (t.sources j).any found.contains) [i]

/-- A column makes its values. -/
def isMade (t : StoredTable) (i : Nat) : Bool :=
  (t.columns[i]?.bind StoredColumn.generator).isSome

/-- One more look at the columns whose values are not made yet: those that can be made are. -/
def makeMore (t : StoredTable) (state : List Nat × List Nat) : List Nat × List Nat :=
  state.2.foldl (fun (made, left) i =>
    if (t.sources i).any left.contains then (made, left) else (made ++ [i], left.erase i)) state

/-- The places of the columns that make their values, in the order in which they do so, and of those
that cannot do so, as they are made from each other. -/
def makingOrder (t : StoredTable) : List Nat × List Nat :=
  let made := (List.range t.columns.length).filter t.isMade
  made.foldl (fun state _ => t.makeMore state) ([], made)

/-- How many values a new row is given: none for the columns that make their own. -/
def givenCount (t : StoredTable) : Nat := (t.columns.filter fun c => c.generator.isNone).length

/-- Takes the row of a number out. -/
def remove (t : StoredTable) (number : Int) : StoredTable :=
  { t with rows := t.rows.filter fun r => r.number != number }

end StoredTable

/-! ## Tables -/

/-- The table that lists the tables. -/
def catalogName : String := "sqlite_master"

/-- The names that the table of the tables goes by. -/
def catalogNames : List String := [catalogName, "sqlite_schema"]

/-- The table of the tables goes by the name. -/
def isCatalogName (name : String) : Bool := catalogNames.any (sameName name)

/-- A column in storage, as it is declared for a table that may be strict. -/
def ColumnDeclaration.toStored (isStrict : Bool) (c : ColumnDeclaration) : StoredColumn :=
  let strict := if isStrict then StrictType.ofName? c.type else none
  { name := c.name
    affinity := if strict = some .any then .blob else Affinity.ofType c.type
    strict
    collation := c.collation
    required := c.required
    default := c.default
    generator := c.generator
    isKept := c.generator.isNone || c.isKept
    width := Plan.typeWidth c.type }

namespace StoredTable

/-- The names of the indexes, from the oldest on. -/
def indexNames (t : StoredTable) : List String :=
  t.indexes.mapIdx fun i _ => "sqlite_autoindex_" ++ t.name ++ "_" ++ toString (i + 1)

/-- The rows that the table of the tables has for a table and its indexes, but for the one in whose
order the rows are. -/
def entries (t : StoredTable) : List (List Datum) :=
  let named : List (String × String × Datum) :=
    ("table", t.name, .ofText t.text) :: t.indexNames.map fun name => ("index", name, .null)
  let listed := (named.zip t.trees).eraseIdx ((t.ordering.map (· + 1)).getD (t.indexes.length + 1))
  listed.map fun ((kind, name, text), tree) =>
    [.ofText kind, .ofText name, .ofText t.name, .ofNat tree.page, text]

/-- The collation of the column at a place. -/
def collationAt (t : StoredTable) (i : Nat) : Collation :=
  (t.columns[i]?.map StoredColumn.collation).getD .binary

/-- The collation of a column in an index. -/
def collationOf (t : StoredTable) (c : IndexedColumn) : Collation :=
  c.collation.getD (t.collationAt c.place)

/-- The rows have numbers, which can be asked for. -/
def isNumbered (t : StoredTable) : Bool := t.ordering.isNone

/-- What goes along with the number of the row, if there is one. -/
def ifNumbered {α : Type} (t : StoredTable) (x : α) : Option α := if t.isNumbered then some x else none

/-- The index in whose order the rows are, if they have no numbers. -/
def orderingIndex? (t : StoredTable) : Option Index := t.ordering.bind fun i => t.indexes[i]?

/-- The columns of an index, and those after them that tell its entries apart, where rows have no
numbers. Of these the least value always comes first. -/
def entryColumns (t : StoredTable) (index : Index) : List IndexedColumn :=
  let isSame (a b : IndexedColumn) : Bool :=
    a.place == b.place && t.collationOf a == t.collationOf b
  let more := (t.orderingIndex?.elim [] Index.columns).filter fun c => !index.columns.any (isSame c)
  index.columns ++ more.map fun c => { c with descends := false }

/-- The columns of an index, as they stand in its pages. -/
def keyColumns (t : StoredTable) (index : Index) : List KeyColumn :=
  (t.entryColumns index).map fun c => ⟨t.collationOf c, c.descends⟩

/-- The values of a row in an index. -/
def valuesIn (t : StoredTable) (index : Index) (row : Row) : List Datum :=
  (t.entryColumns index).map fun c => row.values[c.place]?.getD .null

/-- Rows in the order of an index. -/
def arranged (t : StoredTable) (index : Index) (rows : List Row) : List Row :=
  rows.mergeSort fun a b =>
    Pages.orderBy (t.keyColumns index) (t.valuesIn index a) (t.valuesIn index b) != .gt

/-- The rows in their order. -/
def orderedRows (t : StoredTable) : List Row :=
  match t.orderingIndex? with
  | none => t.rows
  | some index => t.arranged index t.rows

end StoredTable

/-- The table that lists the greatest numbers of rows. -/
def sequenceName : String := "sqlite_sequence"

/-- A table with its rows filled in, if it is the one that lists the greatest numbers of rows. -/
def StoredTable.filled (s : Store) (t : StoredTable) : StoredTable :=
  if t.name = sequenceName then
    let row (u : StoredTable) : Option (List Datum) :=
      match u.counter with
      | some n => if n = 0 then none else some [.ofText u.name, .ofInt n]
      | none => none
    { t with rows := (s.tables.filterMap row).mapIdx fun i values => ⟨(i : Int) + 1, values⟩ }
  else t

namespace Store

/-- The table of the tables: kind, name, the table that it belongs to, where it begins, and the text
that created it. -/
def catalog (s : Store) : StoredTable :=
  let column (name : String) (affinity : Affinity) : StoredColumn :=
    { name, affinity, collation := .binary }
  { name := catalogName
    columns := [column "type" .text, column "name" .text, column "tbl_name" .text,
      column "rootpage" .integer, column "sql" .text]
    key := none
    counter := none
    text := ""
    rows := s.tables.flatMap fun t =>
      t.entries.mapIdx fun i values => ⟨((t.listing + i : Nat) : Int), values⟩ }

/-- The names of the tables. -/
def names (s : Store) : List String := s.tables.map StoredTable.name

/-- The tables of some names. -/
def among (s : Store) (names : List String) : Store :=
  { s with tables := s.tables.filter fun t => names.contains t.name }

/-- A table by name, if it is there. -/
def table? (s : Store) (name : String) : Option StoredTable :=
  s.tables.find? fun t => sameName t.name name

/-- A table by name. -/
def find (s : Store) (name : String) : Except Refusal StoredTable :=
  match s.table? name with
  | some t => .ok (t.filled s)
  | none => if isCatalogName name then .ok (catalog s) else .error ⟨.noSuchTable name, none⟩

/-- A table by name that is to be changed. -/
def findToChange (s : Store) (name : String) : Except Refusal StoredTable := do
  let t ← s.find name
  if isCatalogName t.name then throw ⟨.notModifiable t.name, none⟩ else return t

/-- The tables with one of them exchanged. -/
def put (s : Store) (t : StoredTable) : Store :=
  { s with tables := s.tables.map fun u => if sameName u.name t.name then t else u }

/-! ## Creation -/

/-- The declaration in a text that creates a table. -/
def declaration (s : Store) (text : String) : Except Refusal TableDeclaration :=
  TableDeclaration.read (fun name => (s.table? name).isSome) text

/-- A table that is declared, before there are pages for it. -/
def fresh (d : TableDeclaration) : StoredTable where
  name := d.name
  columns := d.columns.map (ColumnDeclaration.toStored d.isStrict)
  key := d.key
  keyResolution := d.keyResolution
  ordering := d.ordering
  indexes := d.indexes
  checks := d.checks
  references := d.references
  counter := if d.counts then some 0 else none
  text := d.text
  rows := []

/-- Puts a row of the table of the tables onto its pages. -/
def list (catalog : Tree) (number : Nat) (entry : List Datum) : Allocation Tree :=
  catalog.write .table ⟨number, []⟩ (Pages.recordWidth entry)

/-- The numbers of the rows that list a table and its indexes. -/
def listings (t : StoredTable) : List Nat := (List.range t.entries.length).map (t.listing + ·)

/-- Takes the page where an index begins, and lists it, unless it is the one in whose order the rows
are. -/
def lay (state : StoredTable × Tree) (_ : Index) :
    Allocation (StoredTable × Tree) := do
  let (t, catalog) := state
  if t.ordering.any fun i => i + 1 == t.trees.length then
    return ({ t with trees := t.trees ++ [.empty 0] }, catalog)
  else
    let page ← Pages.takePage (some 1)
    let t := { t with trees := t.trees ++ [.empty page] }
    return (t, ← list catalog ((listings t).getLast?.getD 0) (t.entries.getLast?.getD []))

/-- Adds an empty table. It is listed at once, but what there is to tell about it only after its
indexes. -/
def enter (s : Store) (d : TableDeclaration) : Store :=
  let listing := (s.tables.flatMap listings).foldl max 0 + 1
  let work : Allocation (StoredTable × Tree) := do
    let page ← Pages.takePage (some 1)
    let catalog ← list s.catalogTree listing (List.replicate s.catalog.columns.length .null)
    let t := { fresh d with listing, trees := [.empty page] }
    let (t, catalog) ← d.indexes.foldlM lay (t, catalog)
    return (t, ← list catalog listing (t.entries.head?.getD []))
  let ((t, catalogTree), space) := work.run s.space
  { tables := s.tables ++ [t], catalogTree, space }

/-- Adds an empty table. The first one in which the numbers of deleted rows are not used again is
followed by the table that lists the greatest numbers. -/
def add (s : Store) (d : TableDeclaration) : Store :=
  let s := s.enter d
  if d.counts && !(s.names.contains sequenceName) then
    let columns : List ColumnDeclaration :=
      [{ name := "name", type := "" }, { name := "seq", type := "" }]
    let text := "CREATE TABLE " ++ sequenceName ++ "(name,seq)"
    s.enter { name := sequenceName, columns, text }
  else s

/-- Takes a table away. Its pages and those of its indexes are given back, from the last place on
where one of them begins. -/
def drop (s : Store) (t : StoredTable) : Store :=
  let trees := (t.trees.filter fun x => x.page != 0).mergeSort fun a b => decide (b.page ≤ a.page)
  let work : Allocation Tree := do
    let catalog ← (listings t).foldlM
      (fun tree number => tree.erase .table ⟨number, []⟩) s.catalogTree
    Pages.givePages (trees.flatMap Tree.release)
    return catalog
  let (catalogTree, space) := work.run s.space
  { tables := s.tables.filter fun u => !sameName u.name t.name, catalogTree, space }

end Store

end PooledSql.Sqlite
