import PooledSql.Sqlite.Alteration
import PooledSql.Sqlite.Query

/-!
# Changes of tables

What the statements that change tables do: first what can be told beforehand to be wrong with them,
then one row after the other, up to the first that fails, and last what follows for other tables.
How far a change got, and whether it wrote anything at all, is part of what comes of it, since a
transaction may keep the one and always keeps the other in mind.
-/

namespace PooledSql.Sqlite

open Sql (Condition)

/-! ## Row by row -/

/-- How far a change of a table got. -/
structure Progress where
  /-- The tables, where that which is changed may not be up to date. -/
  store : Store
  table : StoredTable
  /-- How many rows were inserted, changed or taken out as was asked. -/
  count : Nat := 0
  /-- Something was written. -/
  isTouched : Bool := false
  /-- What happened last to rows, which has had no effect on anything else yet. -/
  log : List RowChange := []

namespace Progress

/-- The tables as they are. -/
def contents (p : Progress) : Store :=
  p.log.foldl (fun s change => s.wrote p.table.name change) (p.store.put p.table)

/-- Lets what happened last to rows have its effects. -/
def settle (p : Progress) : Except Failure Progress := do
  let s := p.store.put p.table
  let log : List Store.Event := p.log.map fun change => { table := p.table.name, change }
  let s ← s.follow (s.enoughSteps log) log
  return { p with store := s, table := (s.table? p.table.name).getD p.table, log := [] }

/-- Works on rows one after the other, up to the first failure. -/
def carryOut {α : Type} (work : Progress → α → Except Failure Progress) (p : Progress) :
    List α → Option Failure × Progress
  | [] => (none, p)
  | x :: rest =>
    match work p x with
    | .error failure => (some failure, p)
    | .ok p =>
      match p.settle with
      | .error failure => (some failure, p)
      | .ok p => carryOut work p rest

/-- Puts a row into the table, if nothing keeps it out. `log` is what happens to it, and what is
left if it is left out is `without`. -/
def accept (p : Progress) (t without : StoredTable) (row : Row) (log : Row → RowChange)
    (wrote : Row → Bool) : Except Failure Progress :=
  match t.accept row with
  | .ok a =>
    let gone := a.removed.map fun x => RowChange.removed x.row (some a.row.number) x.index
    .ok { p with
      table := a.table
      count := p.count + 1
      isTouched := p.isTouched || wrote a.row || !a.removed.isEmpty
      log := gone ++ [log a.row] }
  | .error .skipped => .ok { p with table := without }
  | .error (.failed failure) => .error failure

/-- A fault of a statement that undoes what the statement did. -/
def orFail {α : Type} (x : Except StatementFault α) : Except Failure α :=
  x.mapError fun fault => { fault }

/-- Inserts a row of values. -/
def insert (p : Progress) (values : List Datum) : Except Failure Progress := do
  let row ← orFail (p.table.shape p.table.nextNumber? values)
  let t := p.table.counting row.number
  p.accept t t row .inserted fun _ => true

/-- The row of a number is still there. -/
def has (p : Progress) (number : Int) : Bool := p.table.rows.any fun r => r.number == number

/-- Takes a row out, if it is still there. It may have been found by the index at a place. -/
def remove (found : Option Nat) (p : Progress) (row : Row) : Except Failure Progress :=
  if p.has row.number then
    .ok { p with
      table := p.table.remove row.number
      count := p.count + 1
      isTouched := true
      log := [.removed row none found] }
  else .ok p

/-- Gives the row of a number another value in the column at a place, if it is still there. -/
def update (i : Option Nat) (v : Datum) (p : Progress) (number : Int) : Except Failure Progress :=
  match p.table.rows.find? fun r => r.number == number with
  | none => .ok p
  | some row => do
    let after ← orFail (p.table.changed i v row)
    let places := i.elim [] p.table.dependents
    p.accept (p.table.remove number) p.table after (.changed row · places) fun a =>
      p.table.isTouched i row a || p.store.goesFirst p.table (.changed row a places)

/-! ### Many rows -/

/-- How much a failure undoes that no constraint foresees, while a number of rows is inserted. -/
def undoingUnforeseen (t : StoredTable) (count : Nat) (fault : StatementFault) : Undoing :=
  if 1 < count && t.isRecorded then .statement
  else if fault = .noNumberLeft then .transaction
  else .unrecorded

/-- A failure while a number of rows is inserted. -/
def failureOf (t : StoredTable) (count : Nat) (failure : Failure) : Failure :=
  if failure.fault.isUnforeseen then
    { failure with undoing := undoingUnforeseen t count failure.fault }
  else failure

/-- Inserts rows of literals. The numbers that are not to be used again are settled last. -/
def insertAll (p : Progress) (rows : List (List Value)) : Option Failure × Progress :=
  let t := p.table
  let work (p : Progress) (values : List Datum) : Except Failure Progress :=
    (p.insert values).mapError (failureOf t rows.length)
  let (failure, p) := p.carryOut work (rows.map fun r => r.map Datum.ofValue)
  if failure.isSome then (failure, { p with table := { p.table with counter := t.counter } })
  else (none, { p with isTouched := p.isTouched || p.table.counter != t.counter })

/-- Takes rows out that may have been found by the index at a place. -/
def removeAll (p : Progress) (found : Option Nat) (rows : List Row) : Option Failure × Progress :=
  p.carryOut (remove found) rows

/-- Takes all rows out at once. Something is written even if there are none. -/
def empty (p : Progress) : Progress :=
  { p with
    table := { p.table with rows := [] }
    count := p.table.rows.length
    isTouched := true
    log := [.emptied] }

/-- Gives rows another value in the column at a place. -/
def updateAll (p : Progress) (i : Option Nat) (v : Datum) (rows : List Row) :
    Option Failure × Progress :=
  let isRecorded := p.table.isRecorded
  let work (p : Progress) (number : Int) : Except Failure Progress :=
    (p.update i v number).mapError fun failure =>
      if failure.fault.isUnforeseen && !isRecorded then { failure with undoing := .unrecorded }
      else failure
  p.carryOut work (rows.map Row.number)

end Progress

/-! ## Statements that change tables -/

/-- What comes of a change. -/
structure Effect where
  /-- How many rows were changed, or why not all of them. -/
  outcome : Except Refusal Nat
  /-- How much is undone if not all of them were changed. -/
  undoing : Undoing := .statement
  /-- The tables, as far as the change got. -/
  contents : Store
  /-- Something was written. -/
  isTouched : Bool

namespace Effect

/-- No change, and why. -/
def refused (s : Store) (refusal : Refusal) : Effect :=
  { outcome := .error refusal, contents := s, isTouched := false }

/-- A change that failed. -/
def failed (s : Store) (failure : Failure) (isTouched : Bool) : Effect where
  outcome := .error ⟨failure.fault, .none⟩
  undoing := failure.undoing
  contents := s
  isTouched := isTouched

/-- What was done is there to stay. -/
def isKept (e : Effect) : Bool := e.outcome.isOk || e.undoing == .nothing

/-- A reference leads nowhere that did not before. -/
def isLost (e : Effect) : Bool :=
  match e.outcome with
  | .ok _ => false
  | .error refusal => refusal.fault == .failedReference

/-- What comes of work on one of the tables. -/
def ofProgress (s : Store) (failure : Option Failure) (p : Progress) : Effect :=
  let final := p.contents
  let isDangling := decide (s.danglingCount false < final.danglingCount false)
  let lost : Failure := { fault := .failedReference }
  match failure with
  | none =>
    if isDangling then failed final lost p.isTouched
    else ⟨.ok p.count, .statement, final, p.isTouched⟩
  | some failure =>
    let failure := if failure.undoing = .nothing && isDangling then lost else failure
    failed final failure p.isTouched

end Effect

/-- A change of tables: what can be told beforehand to be wrong with it, and what it does. -/
structure Change where
  check : Store → Except Refusal Unit
  apply : Store → Effect
  /-- The locks on tables that it takes. -/
  locks : Store → List TableLock

namespace Change

/-- What comes of a change, if something may be wrong with it after all; its place is not known any
more. -/
def run (c : Change) (s : Store) : Effect :=
  match c.check s with
  | .error refusal => .refused s ⟨refusal.fault, none⟩
  | .ok () => c.apply s

/-- Works on a table, if it is there. -/
def onTable (name : String) (work : Progress → Option Failure × Progress) (s : Store) : Effect :=
  match s.findToChange name with
  | .error refusal => .refused s refusal
  | .ok t =>
    let (failure, p) := work { store := s, table := t }
    .ofProgress s failure p

/-- The locks that an alteration of a table takes, if it is there, which also reads those of some
names. -/
def locksOn (name : String) (a : StoredTable → Alteration) (read : List String) (s : Store) :
    List TableLock :=
  ((s.table? name).map fun t => s.locks t (a t) read).getD []

/-- Creates the table that a text declares. -/
def create (text : String) : Change where
  check s := do
    let _ ← s.declaration text
  apply s :=
    match s.declaration text with
    | .error refusal => .refused s refusal
    | .ok d =>
      match d.readingFault? with
      | some fault => .refused s ⟨fault, none⟩
      | none => ⟨.ok 0, .statement, s.add d, true⟩
  locks _ := [⟨catalogName, true⟩]

/-- Takes a table away, unless it is one of the program's own. Its rows go first, and no reference
may lead nowhere for that. -/
def drop (name : String) (isOptional : Bool) : Change where
  check s :=
    match s.find name with
    | .error refusal => if isOptional then .ok () else .error refusal
    | .ok t =>
      let isReserved := Draft.isReserved t.name
      if isReserved then .error ⟨.notRemovable t.name, none⟩ else .ok ()
  apply s :=
    match s.table? name with
    | none => ⟨.ok 0, .statement, s, false⟩
    | some t =>
      let emptied := s.put { t with rows := [] }
      if s.danglingCount false < emptied.danglingCount false then .refused s ⟨.failedReference, none⟩
      else ⟨.ok 0, .statement, s.drop t, true⟩
  locks s := ⟨catalogName, true⟩ :: locksOn name (fun _ => .removal) [] s

/-- Inserts rows, which all have the same width. One row alone, if none makes room for it, is not put
in at all where a reference of it leads nowhere. -/
def insert (table : String) (rows : List (List Value)) : Change where
  check s := do
    let t ← s.findToChange table
    let width := (rows.head?.map List.length).getD 0
    if t.givenCount ≠ width then throw ⟨.columnCount table t.givenCount width, none⟩
    s.checkAlteration t (.insertion rows.length)
  apply s :=
    let effect := onTable table (fun p => p.insertAll rows) s
    let isSingle := rows.length == 1 && (s.table? table).any fun t => !t.makesRoomForNew
    if isSingle && effect.isLost then .refused s ⟨.failedReference, none⟩ else effect
  locks := locksOn table (fun _ => .insertion rows.length) []

/-- An occurrence of a table in a statement that changes it, where it goes by its own name. -/
def target (source : Table) : Table := { source with label := source.name }

/-- The references of the filter of a change mean something; `head` is what stands before it. -/
def checkFilter (s : Store) (source : Table) (head : List Sql.Piece) (filter : Option Condition) :
    Except Refusal Unit :=
  Sqlite.checkFilter s (Site.after ⟨[headingOf s (target source)], 0, 0⟩ head) filter

/-- Takes the rows of a table out that pass a filter. All of them go at once if there is no filter
and that has no effect on other rows. -/
def removeChosen (source : Table) (filter : Option Condition) (p : Progress) :
    Option Failure × Progress :=
  let rows := chosen p.store source p.table filter
  let isReferenced := p.store.isReferenced p.table
  if filter.isNone && !isReferenced then (none, p.empty)
  else
    let route := Plan.routeForChange p.store p.table isReferenced source filter
    p.removeAll route.index (Plan.visit p.table rows route)

/-- Deletes the rows that pass a filter. -/
def delete (source : Table) (filter : Option Condition) : Change where
  check s := do
    let t ← s.findToChange source.name
    checkFilter s source (Statement.deleteHead source) filter
    s.checkAlteration t .removal
  apply := onTable source.name (removeChosen (target source) filter)
  locks := locksOn source.name (fun _ => .removal) (filterSources filter)

/-- The rows that pass a filter, in the order in which they are given another value in the column at
a place. They are gone through by an index only if nothing that is done to one of them can have an
effect on the index, or on other rows. -/
def inChangeOrder (s : Store) (t : StoredTable) (source : Table) (filter : Option Condition)
    (place : Option Nat) : List Row :=
  let rows := chosen s source t filter
  let places := place.elim [] t.dependents
  let isMoved := place == t.key || t.orderingIndex?.any fun index => index.isTouched places
  if isMoved || t.mayRemove places false || s.concernsReferences t places then rows
  else
    match (Plan.routeForChange s t false source filter).index with
    | none => rows
    | some i =>
      if t.indexes[i]?.any fun index => index.isTouched places then rows
      else Plan.arrange t (some i) rows

/-- The alteration of a table that gives rows another value in a column. -/
def revision (column : String) (t : StoredTable) : Alteration :=
  let place := t.columnPlace? column <|> t.key
  .revision (place.elim [] t.dependents) (place == t.key)

/-- Gives the rows that pass a filter another value in a column. -/
def update (source : Table) (column : String) (value : Value) (filter : Option Condition) :
    Change where
  check s := do
    let t ← s.findToChange source.name
    let place := t.columnPlace? column
    if place.isNone && !(t.isNumbered && isRowNumberName column) then
      throw ⟨.noSuchColumn column, none⟩
    match place.bind fun i => t.columns[i]? with
    | some c => if c.generator.isSome then throw ⟨.generatedTarget c.name, none⟩
    | none => pure ()
    checkFilter s source (Statement.updateHead source column value) filter
    s.checkAlteration t (revision column t)
  apply := onTable source.name fun p =>
    let place := p.table.columnPlace? column
    let rows := inChangeOrder p.store p.table (target source) filter (place <|> p.table.key)
    p.updateAll place (.ofValue value) rows
  locks := locksOn source.name (revision column) (filterSources filter)

end Change

/-- The change that a statement makes, if it is one that changes tables. -/
def Statement.change? (statement : Statement) : Option Change :=
  match statement with
  | .create _ _ => some (.create statement.text)
  | .verbatim text =>
    match Command.ofText text with
    | .ok .creation => some (.create text)
    | .ok (.removal table isOptional) => some (.drop table isOptional)
    | .ok (.insertion table rows) => some (.insert table rows)
    | .ok (.emptying table) => some (.delete { name := table, label := table, columns := [] } none)
    | _ => none
  | .insert table rows => some (.insert table rows)
  | .delete source filter => some (.delete source filter)
  | .update source column value filter => some (.update source column value filter)
  | _ => none

end PooledSql.Sqlite
