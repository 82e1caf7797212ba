import PooledSql.Sqlite.Store

/-!
# Admitting rows

A row is put in only if its table's constraints hold with it. They are looked at in a fixed order:
the kind of the key, values that must not be absent, the conditions, the number of the row, and the
indexes from the youngest on. What makes room for the row does so last.

Each constraint says what happens to a row that it keeps out: the row may be left out, what is in
its way may make room for it, or the statement fails, and that may undo more or less of what was
done before. A condition that is not known to fail holds.
-/

namespace PooledSql.Sqlite

/-- How much of what was done a failure undoes. -/
inductive Undoing
  /-- Everything that the transaction did. -/
  | transaction
  /-- Everything that the statement did. -/
  | statement
  /-- Everything that the statement did, unless it is part of a transaction: no record was made of
  what was there before. -/
  | unrecorded
  | nothing
deriving DecidableEq, Repr

/-- How much is undone when a constraint makes a statement fail. -/
def Resolution.undoing : Resolution → Undoing
  | .rollback => .transaction
  | .fail => .nothing
  | _ => .statement

/-- A failure of a statement, and how much it undoes. -/
structure Failure where
  fault : StatementFault
  undoing : Undoing := .statement
deriving DecidableEq, Repr

/-- What keeps a row out. -/
inductive Obstacle
  /-- The row is left out. -/
  | skipped
  | failed (failure : Failure)
deriving DecidableEq, Repr

/-- A row that made room for another one. -/
structure Removal where
  row : Row
  /-- The place of the index that was the cause, unless it was the number of the row. -/
  index : Option Nat

/-- A table that took a row, and what made room for it. -/
structure Admitted where
  table : StoredTable
  row : Row
  removed : List Removal := []

/-- A constraint by which rows keep others out: when one is in the way of another, the columns that
are the cause, the place of their index, if it is one, and what happens. -/
structure Barrier where
  blocks : Row → Row → Bool
  columns : List String
  index : Option Nat
  resolution : Resolution

/-- A column of a strict table takes a value. -/
def StrictType.takes (type : StrictType) (v : Datum) : Bool :=
  match type, v with
  | _, .null => true
  | .any, _ => true
  | .blob, .blob _ => true
  | .int, .integer _ => true
  | .integer, .integer _ => true
  | .real, .real _ => true
  | .text, .text _ => true
  | _, _ => false

namespace StoredTable

/-! ## Values that are not given -/

/-- The greatest number that a row can have. -/
def greatestNumber : Int := Int64.maxValue.toInt

/-- Where free numbers are looked for when the greatest one is taken. -/
def middleNumber : Int := Int64.maxValue.toInt / 4

/-- The number of the next row, where none is given: the one after the last, or else some free one,
unless the numbers of deleted rows are not used again. -/
def nextNumber? (t : StoredTable) : Option Int :=
  let last := (t.rows.getLast?.map Row.number).getD 0
  let last := (t.counter.map (max last)).getD last
  if last < greatestNumber then some (last + 1)
  else if t.counter.isSome then none
  else some (t.rows.foldl (fun n r => if r.number = n then n + 1 else n) middleNumber)

/-- What the names in a formula stand for in a row, where the columns at some places have texts that
are JSON values. -/
def namesIn (t : StoredTable) (row : Row) (marked : List Nat) : Names := fun _ name =>
  match t.columnPlace? name with
  | some i =>
    let column := t.columns[i]?
    some ⟨⟨row.values[i]?.getD .null, column.map StoredColumn.affinity,
      column.map StoredColumn.collation⟩, marked.contains i⟩
  | none =>
    if isRowNumberName name then t.ifNumbered ⟨⟨.ofInt row.number, some .integer, none⟩, false⟩
    else none

/-- A row with the value of the column at a place, which is made from others. -/
def generateAt (t : StoredTable) (state : Row × List Nat) (i : Nat) :
    Calculated (Row × List Nat) :=
  let (row, marked) := state
  match t.columns[i]?.bind fun c => c.generator.map (c, ·) with
  | none => .ok state
  | some (c, f) => do
    let v ← f.value ⟨some .generator, t.namesIn row marked⟩
    let held := c.affinity.hold v.value
    return ({ row with values := row.values.set i held },
      if v.isJson && held == v.value then i :: marked else marked)

/-- A value at a place in a row is none that its column takes. -/
def kindFaultAt? (t : StoredTable) (row : Row) (i : Nat) : Option StatementFault := do
  let c ← t.columns[i]?
  let type ← c.strict
  let v := row.values[i]?.getD .null
  if type.takes v then none
  else some (.wrongKind v.kindName type.name t.name c.name)

/-- The first value in a row, of those at places that fulfil a condition, that its column does not
take. -/
def kindFault? (t : StoredTable) (row : Row) (concerns : Nat → Bool) : Option StatementFault :=
  ((List.range t.columns.length).filter concerns).findSome? (t.kindFaultAt? row)

/-- A row with the values that columns make from the others, and from each other, if they take those
others. -/
def generate (t : StoredTable) (row : Row) : Except StatementFault Row :=
  let order := t.makingOrder.1
  match if order.isEmpty then none else t.kindFault? row fun i => !t.isMade i with
  | some fault => .error fault
  | none =>
    match order.foldlM t.generateAt (row, []) with
    | .ok (row, _) => .ok row
    | .error fault => .error (.calculation fault)

/-- Values for all columns, each converted as its column does it; those that columns make are absent
at first. -/
def spread : List StoredColumn → List Datum → List Datum
  | [], _ => []
  | c :: rest, values =>
    if c.generator.isSome then .null :: spread rest values
    else c.affinity.hold (values.head?.getD .null) :: spread rest (values.drop 1)

/-- A row that is to have some values. The value of the key becomes the number of the row, unless it
is absent, in which case the number is `next?`. -/
def shape (t : StoredTable) (next? : Option Int) (values : List Datum) :
    Except StatementFault Row :=
  let values := spread t.columns values
  let numbered (f : Int → List Datum) : Except StatementFault Row :=
    match next? with
    | some number => t.generate ⟨number, f number⟩
    | none => .error .noNumberLeft
  match t.key with
  | none => numbered fun _ => values
  | some i =>
    match values[i]?.getD .null with
    | .null => numbered fun number => values.set i (.ofInt number)
    | .integer n => t.generate ⟨n.toInt, values⟩
    | _ => .error .datatypeMismatch

/-! ## Values that must not be absent -/

/-- What a column does about an absent value. -/
def absence (t : StoredTable) (c : StoredColumn) (resolution : Resolution) : Obstacle :=
  match resolution with
  | .ignore => .skipped
  | r => .failed ⟨.absentValue t.name c.name, r.undoing⟩

/-- Looks at the value of a row at a place, if it is absent and must not be: a default may take its
place. The values that columns make are not looked at. -/
def fillAt (t : StoredTable) (row : Row) (i : Nat) : Except Obstacle Row :=
  match t.columns[i]? with
  | none => .ok row
  | some c =>
    if t.key = some i || c.generator.isSome || !(row.values[i]?.getD .null).isNull then .ok row
    else
      match c.required, c.default with
      | none, _ => .ok row
      | some .replace, some f =>
        match f.standard with
        | .ok v => .ok { row with values := row.values.set i (c.affinity.hold v) }
        | .error fault => .error (.failed { fault := .calculation fault })
      | some r, _ => .error (t.absence c r)

/-- Looks at the value of a row at a place once more, at those that columns make for the first
time. -/
def checkAt (t : StoredTable) (row : Row) (i : Nat) : Except Obstacle Unit :=
  match t.columns[i]? with
  | none => .ok ()
  | some c =>
    if t.key = some i || !(row.values[i]?.getD .null).isNull then .ok ()
    else c.required.elim (.ok ()) fun r => .error (t.absence c r)

/-- A row with defaults where values must not be absent. -/
def fill (t : StoredTable) (row : Row) : Except Obstacle Row := do
  let places := List.range t.columns.length
  match t.generate (← places.foldlM t.fillAt row) with
  | .error fault => throw (.failed { fault })
  | .ok row =>
    places.forM (t.checkAt row)
    return row

/-! ## Conditions -/

/-- A condition holds for a row. -/
def checkCondition (t : StoredTable) (row : Row) (c : Check) : Except Obstacle Unit :=
  match c.condition.passes (t.namesIn row []) with
  | .ok true => .ok ()
  | .ok false => .error (.failed { fault := .failedCheck c.name })
  | .error fault => .error (.failed { fault := .calculation fault })

/-- The conditions hold for a row. -/
def checkConditions (t : StoredTable) (row : Row) : Except Obstacle Unit :=
  t.checks.forM (t.checkCondition row)

/-! ## Rows in the way of others -/

/-- A column in an index has the same value in two rows, and not an absent one. -/
def agreeAt (t : StoredTable) (a b : Row) (c : IndexedColumn) : Bool :=
  match t.columns[c.place]? with
  | none => false
  | some column =>
    order (c.collation.getD column.collation) (a.values[c.place]?.getD .null)
      (b.values[c.place]?.getD .null) == some .eq

/-- The barrier of the numbers of rows. -/
def numberBarrier (t : StoredTable) : Barrier :=
  ⟨fun row other => other.number == row.number, [t.keyName], none, t.keyResolution⟩

/-- The barrier of the index at a place. -/
def indexBarrier (t : StoredTable) (index : Index) (place : Nat) : Barrier :=
  ⟨fun row other => index.columns.all (t.agreeAt row other),
    index.columns.map fun c => t.columnName c.place, some place, index.resolution.getD .abort⟩

/-- The barriers in the order in which they are looked at. -/
def barriers (t : StoredTable) : List Barrier :=
  let indexes := (t.indexes.mapIdx fun i index => t.indexBarrier index i).reverse
  let makesRoom (b : Barrier) : Bool := b.resolution == .replace
  let sorted := indexes.filter (fun b => !makesRoom b) ++ indexes.filter makesRoom
  if makesRoom t.numberBarrier then sorted ++ [t.numberBarrier] else t.numberBarrier :: sorted

/-- Makes room for a row among others: what is left of them, and what had to go. -/
def clear (t : StoredTable) (row : Row) (rows : List Row) (removed : List Removal) :
    List Barrier → Except Obstacle (List Row × List Removal)
  | [] => .ok (rows, removed)
  | b :: rest =>
    if rows.any (b.blocks row) then
      match b.resolution with
      | .ignore => .error .skipped
      | .replace =>
        let gone := (rows.filter (b.blocks row)).map fun r => ⟨r, b.index⟩
        clear t row (rows.filter fun r => !b.blocks row r) (removed ++ gone) rest
      | r => .error (.failed ⟨.notUnique (b.columns.map fun c => (t.name, c)), r.undoing⟩)
    else clear t row rows removed rest

/-! ## Admission -/

/-- The columns take the values of a row that are kept. That is looked at before the conditions and
the indexes, but after the number. Where there are none of these, values that are made are not looked
at. -/
def checkKinds (t : StoredTable) (row : Row) : Except Obstacle Unit :=
  let isPlain := t.checks.isEmpty && t.indexes.isEmpty
  let concerns (c : StoredColumn) : Bool := c.isKept && !(isPlain && c.generator.isSome)
  match t.kindFault? row fun i => t.columns[i]?.any concerns with
  | none => .ok ()
  | some fault => do
    if t.checks.isEmpty then
      let _ ← t.clear row t.rows [] (t.barriers.takeWhile fun b => b.index.isNone)
    throw (.failed { fault })

/-- Puts a row into the table, if nothing keeps it out. -/
def accept (t : StoredTable) (row : Row) : Except Obstacle Admitted := do
  let row ← t.fill row
  t.checkKinds row
  t.checkConditions row
  let (rows, removed) ← t.clear row t.rows [] t.barriers
  return { table := { t with rows := place row rows }, row, removed }

/-- Counts the number of a new row, where numbers are not used again. -/
def counting (t : StoredTable) (number : Int) : StoredTable :=
  { t with counter := t.counter.map (max number) }

/-- What a value becomes in a row's number. -/
def rowNumber (v : Datum) : Except StatementFault Int :=
  match asNumber v with
  | .integer n => .ok n.toInt
  | _ => .error .datatypeMismatch

/-- A row with another value in the column at a place; without a place, or at that of the key, with
another number. -/
def changed (t : StoredTable) (i : Option Nat) (v : Datum) (row : Row) :
    Except StatementFault Row := do
  if i = none ∨ i = t.key then
    let number ← rowNumber v
    let values :=
      match t.key with
      | some k => row.values.set k (.ofInt number)
      | none => row.values
    t.generate ⟨number, values⟩
  else
    let hold (i : Nat) : Datum := (t.columns[i]?.map fun c => c.affinity.hold v).getD v
    let values := (i.map fun i => row.values.set i (hold i)).getD row.values
    t.generate { row with values }

/-- Rows may have to make room for one whose number is new, or whose values are new in some of the
indexes. -/
def makesRoom (t : StoredTable) (isNumberNew : Bool) (isNew : Index → Bool) : Bool :=
  isNumberNew && t.keyResolution == .replace ||
    t.indexes.any fun i => i.resolution == some .replace && isNew i

/-- Rows may have to make room for a new one. -/
def makesRoomForNew (t : StoredTable) : Bool := t.makesRoom t.key.isSome fun _ => true

/-- Some constraint undoes what a statement did when it keeps a new row out, so a record is made of
what was there before. -/
def isRecorded (t : StoredTable) : Bool :=
  let required := t.columns.mapIdx fun i c =>
    t.key != some i && c.required.any fun r => r == .abort || r == .replace
  (t.key.isSome && t.keyResolution == .abort) || !t.checks.isEmpty || required.contains true ||
    (t.indexes.any fun i => i.resolution.getD .abort == .abort) ||
    t.references.any fun r => !r.isDeferred

/-- An index has the column at a place, or one whose values depend on others. -/
def isIndexed (t : StoredTable) (i : Option Nat) : Bool :=
  t.indexes.any fun index => index.columns.any fun c =>
    i == some c.place || (t.columns[c.place]?.bind StoredColumn.generator).isSome

/-- Writing a row with another value in the column at a place touches the table: always where the
number or an index changes, else only if the value differs. -/
def isTouched (t : StoredTable) (i : Option Nat) (before after : Row) : Bool :=
  i == none || i == t.key || t.isIndexed i || before != after

end StoredTable

end PooledSql.Sqlite
