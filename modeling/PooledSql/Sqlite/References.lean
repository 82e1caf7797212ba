import PooledSql.Sqlite.Admission
import PooledSql.Sqlite.Pages.Layout

/-!
# References between tables

The rows of a table may refer to rows of another one, by values that its key or one of its indexes
has. A reference with an absent value refers to nothing. At the end of a statement no reference may
lead nowhere that did not before it, except for those that have time until the end of the
transaction.

If a row that is referred to goes, or gets other values, the rows that refer to it may go as well,
or get other values, and so on.
-/

namespace PooledSql.Sqlite

/-- A column that is referred to, and the one that refers to it, by their places. -/
structure Pairing where
  target : Nat
  source : Nat
deriving DecidableEq, Repr

namespace Reference

/-- The columns that a reference pairs, if there is a key or an index for those it refers to. -/
def pairings? (r : Reference) (t : StoredTable) : Option (List Pairing) :=
  let byPlace (places : List Nat) : List Pairing := places.zipWith Pairing.mk r.columns
  match r.targets, t.key, r.columns with
  | none, some key, [source] => some [⟨key, source⟩]
  | none, _, columns =>
    (t.indexes.find? fun i => i.isKey && i.columns.length == columns.length).map fun i =>
      byPlace (i.columns.map IndexedColumn.place)
  | some names, key, columns =>
    let source? (place : Nat) : Option Nat :=
      ((names.zip columns).find? fun p => sameName p.1 (t.columnName place)).map Prod.snd
    let paired (places : List Nat) : Option (List Pairing) :=
      places.mapM fun place => (source? place).map (Pairing.mk place)
    match key.bind fun key => if names.length = 1 then paired [key] else none with
    | some pairings => some pairings
    | none =>
      t.indexes.reverse.findSome? fun i =>
        let isPlain := i.columns.all fun c =>
          c.collation.all fun x => t.columns[c.place]?.any fun column => column.collation == x
        if isPlain && i.columns.length == names.length then
          paired (i.columns.map IndexedColumn.place)
        else none

end Reference

namespace StoredTable

/-- The value at a place in a row. -/
def valueAt (row : Row) (place : Nat) : Datum := row.values[place]?.getD .null

/-- A value is that of a column in a row, once it is converted as the column does it. -/
def isValueAt (t : StoredTable) (row : Row) (place : Nat) (v : Datum) : Bool :=
  match t.columns[place]? with
  | none => false
  | some c =>
    let v := if t.key = some place then asNumber v else c.affinity.hold v
    order c.collation (valueAt row place) v == some .eq

/-- A row is the one that another row refers to. -/
def isReferred (t : StoredTable) (pairings : List Pairing) (row source : Row) : Bool :=
  pairings.all fun p => t.isValueAt row p.target (valueAt source p.source)

/-- A row refers to itself. Its values are not converted for that, unless it refers to the number.
-/
def isOwnReferred (t : StoredTable) (pairings : List Pairing) (row : Row) : Bool :=
  if pairings.map Pairing.target = t.key.toList then t.isReferred pairings row row
  else
    pairings.all fun p =>
      order .binary (valueAt row p.target) (valueAt row p.source) == some .eq

/-- A reference leads nowhere. It may be one to a row of its own table. -/
def isDangling (t : StoredTable) (isOwn : Bool) (pairings : List Pairing) (source : Row) : Bool :=
  pairings.all (fun p => !(valueAt source p.source).isNull) &&
    !t.rows.any fun row =>
      if isOwn && row.number == source.number then t.isOwnReferred pairings row
      else t.isReferred pairings row source

end StoredTable

namespace Store

/-- The columns that a reference pairs, and the table that it refers to. -/
def destination? (s : Store) (r : Reference) : Option (StoredTable × List Pairing) :=
  (s.table? r.table).bind fun t => (r.pairings? t).map (t, ·)

/-- The rows of a table of which a reference leads nowhere. -/
def dangling (s : Store) (t : StoredTable) (r : Reference) : List Row :=
  match s.destination? r with
  | some (target, pairings) =>
    t.rows.filter (target.isDangling (sameName target.name t.name) pairings)
  | none => []

/-- How many references lead nowhere, of those that have time until the end of the transaction, or
of the others. -/
def danglingCount (s : Store) (isDeferred : Bool) : Nat :=
  s.tables.foldl (fun n t =>
    (t.references.filter fun r => r.isDeferred == isDeferred).foldl
      (fun n r => n + (s.dangling t r).length) n) 0

/-- The references to a table, from the youngest on, and the tables that they are from. -/
def referencesTo (s : Store) (t : StoredTable) : List (StoredTable × Reference) :=
  s.tables.reverse.flatMap fun source =>
    (source.references.filter fun r => sameName r.table t.name).map (source, ·)

/-- A reference refers to a column of a table by name or, without one, to its key. -/
def refersTo (t : StoredTable) (place : Nat) (r : Reference) : Bool :=
  match r.targets with
  | some names => names.any (sameName (t.columnName place))
  | none =>
    t.key == some place ||
      t.indexes.any fun i => i.isKey && i.columns.any fun c => c.place == place

/-- There are references from a table or to it. -/
def isReferenced (s : Store) (t : StoredTable) : Bool :=
  !t.references.isEmpty || !(s.referencesTo t).isEmpty

/-! ## Pages -/

/-- A row goes before what comes into its place is written: one that makes room, if there may be
references to it, and one that changes, if something may follow from that, or if it may be referred
to by rows of its own table. -/
def goesFirst (s : Store) (t : StoredTable) : RowChange → Bool
  | .removed _ _ _ => s.isReferenced t
  | .changed _ _ places =>
    (t.references.any fun r => sameName r.table t.name && r.columns.any places.contains) ||
      (s.referencesTo t).any fun p =>
        p.2.onUpdate != .nothing && places.any fun i => refersTo t i p.2
  | _ => false

/-- Brings to the pages what happened to rows of a table. -/
def wrote (s : Store) (name : String) (change : RowChange) : Store :=
  match s.table? name with
  | none => s
  | some t =>
    let (laid, space) := (t.lay (s.goesFirst t change) change).run s.space
    { s.put { t with trees := laid.trees } with space }

/-! ## What follows -/

/-- Something that happened to a row of a table, and how much it followed from one after the other.
-/
structure Event where
  table : String
  change : RowChange
  depth : Nat := 0
deriving DecidableEq, Repr

/-- How much may follow one from the other. -/
def greatestDepth : Nat := 1000

/-- The rows of a table that refer to a row of another one. -/
def referring (t target : StoredTable) (pairings : List Pairing) (row : Row) : List Row :=
  t.orderedRows.filter fun source => target.isReferred pairings row source

/-- A table in which every constraint makes the statement fail. -/
def strict (t : StoredTable) : StoredTable :=
  { t with
    keyResolution := .abort
    columns := t.columns.map fun c => { c with required := c.required.map fun _ => .abort }
    indexes := t.indexes.map fun i => { i with resolution := none } }

/-- A row with other values at some places. -/
def revised (t : StoredTable) (row : Row) (values : List (Nat × Datum)) : Except Failure Row :=
  values.foldlM (fun row p =>
    match t.changed (some p.1) p.2 row with
    | .ok row => .ok row
    | .error fault => .error { fault }) row

/-- Gives a row of a table other values at some places. -/
def revise (s : Store) (t : StoredTable) (row : Row) (values : List (Nat × Datum)) :
    Except Failure (Store × List RowChange) := do
  let after ← revised t row values
  match (strict (t.remove row.number)).accept after with
  | .ok a =>
    let change : RowChange := .changed row a.row (values.flatMap fun p => t.dependents p.1)
    return (s.put { t with rows := a.table.rows }, [change])
  | .error (.failed failure) => throw failure
  | .error .skipped => return (s, [])

/-- The loss of what some rows of a table refer to. -/
structure Loss where
  /-- The row that they refer to. -/
  row : Row
  action : Action
  /-- It is gone, and it may have been to make room for the row of a number. -/
  isGone : Bool := false
  heir : Option Int := none
  /-- The values that they get to keep their reference, if it is not gone. -/
  values : List (Nat × Datum) := []

/-- What a reference loses by what happened to a row that it refers to, if it loses anything. -/
def loss? (r : Reference) (pairings : List Pairing) : RowChange → Option Loss
  | .removed row heir _ => some { row, action := r.onDelete, isGone := true, heir }
  | .changed before after _ =>
    let isSame := pairings.all fun p =>
      StoredTable.valueAt before p.target == StoredTable.valueAt after p.target
    let values := pairings.map fun p => (p.source, StoredTable.valueAt after p.target)
    if isSame then none else some { row := before, action := r.onUpdate, values }
  | _ => none

/-- The index by which the row of a table is found that refers to one of another table, if there is
no more than one such row. -/
def finder? (t target : StoredTable) (pairings : List Pairing) : Option Nat :=
  let isGiven (c : IndexedColumn) : Bool := pairings.any fun p =>
    p.source == c.place && target.collationAt p.target == t.collationOf c
  t.entryOrder.find? fun i => t.indexes[i]?.any fun index =>
    index.columns.all isGiven && index.isDecisive

/-- Does to a row of a table what follows from the loss of its reference. It may be found by the
index at a place. -/
def act (s : Store) (name : String) (x : Row) (loss : Loss) (pairings : List Pairing)
    (found : Option Nat) : Except Failure (Store × List RowChange) :=
  match s.table? name with
  | none => .ok (s, [])
  | some t =>
    let standard (i : Nat) : Except Failure Datum :=
      match (t.columns[i]?.bind StoredColumn.default).map Formula.standard with
      | none => .ok .null
      | some (.ok v) => .ok v
      | some (.error fault) => .error { fault := .calculation fault }
    match loss.action with
    | .nothing => .ok (s, [])
    | .restrict => .error { fault := .failedReference }
    | .setNull => s.revise t x (pairings.map fun p => (p.source, .null))
    | .setDefault => do
      s.revise t x (← pairings.mapM fun p => do return (p.source, ← standard p.source))
    | .cascade =>
      if loss.isGone then .ok (s.put (t.remove x.number), [.removed x none found])
      else s.revise t x loss.values

/-- What follows for the rows of a table from what happened to a row that they referred to. A row
for which it made room came after that. -/
def followOne (s : Store) (target : StoredTable) (event : Event)
    (source : StoredTable × Reference) : Except Failure (Store × List Event) :=
  let (t, r) := source
  match r.pairings? target, s.table? t.name with
  | some pairings, some current =>
    match loss? r pairings event.change with
    | none => .ok (s, [])
    | some loss =>
      let isHeir (x : Row) : Bool := t.name == target.name && loss.heir == some x.number
      let rows := (referring current target pairings loss.row).filter fun x => !isHeir x
      let found := finder? current target pairings
      if loss.action = .nothing then .ok (s, [])
      else if greatestDepth ≤ event.depth then .error { fault := .tooManyLevels }
      else
        rows.foldlM (fun (s, log) x => do
          let (s, changes) ← s.act t.name x loss pairings found
          return (s, log ++ changes.map (⟨t.name, ·, event.depth + 1⟩))) (s, [])
  | _, _ => .ok (s, [])

/-- What follows from what happened to rows, up to some number of steps. -/
def follow : Nat → List Event → Store → Except Failure Store
  | 0, _, s => .ok s
  | _, [], s => .ok s
  | n + 1, event :: rest, s => do
    match s.table? event.table with
    | none => follow n rest s
    | some target =>
      let s := s.wrote event.table event.change
      let (s, more) ← (s.referencesTo target).foldlM
        (fun (s, log) source => do
          let (s, more) ← s.followOne target event source
          return (s, log ++ more)) (s, [])
      follow n (more ++ rest) s

/-- More steps than following takes: each removes a row, or changes one that was referred to. -/
def enoughSteps (s : Store) (log : List Event) : Nat :=
  let rows := s.tables.foldl (fun n t => n + t.rows.length) 0
  (rows + 1) * (rows + s.tables.length + log.length + 1)

end Store

end PooledSql.Sqlite
