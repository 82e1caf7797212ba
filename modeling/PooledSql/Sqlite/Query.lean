import PooledSql.Sql.Evaluation
import PooledSql.Sqlite.Plan.Visit
import PooledSql.Sqlite.Statement
import PooledSql.Sqlite.TableLock

/-!
# Queries on storage

Tables are looked for before references: in a selection all of them, in a change those of each
sub-query when its turn comes. A reference that means nothing is reported with its place.
-/

namespace PooledSql.Sqlite

open Sql (Operand Condition Subquery Reading Piece size words)

/-- How conditions are read over storage. A sub-query's value that has a name is a column, and so
has a collation; one that stands as an operand keeps no collation. -/
def reading (s : Store) : Reading (Scope Cell) Cell where
  column scope c := (scope.find? c.table c.name).getD (.literal .null)
  member scope label := (scope.find? label Sql.valueAlias).getD (.literal .null)
  rows scope value source filter :=
    match s.find source.name with
    | .ok t =>
      (Plan.rowsFor s t source scope value filter).map fun r =>
        t.frame (occurrenceNames source) r :: scope
    | .error _ => []
  bind scope label v :=
    memberFrame label { v with collation := some (v.collation.getD .binary) } :: scope
  literal := Cell.literal
  single values := { values.head?.getD (.literal .null) with collation := none }
  compare relation a b := .ofOrder relation (a.order b)

/-! ## Tables that are missing -/

mutual

/-- The tables that an operand reads. -/
def operandSources : Operand → List String
  | .subquery q => querySources q
  | _ => []

/-- The tables that a condition reads. -/
def conditionSources : Condition → List String
  | .compare _ lhs rhs => operandSources lhs ++ operandSources rhs
  | .inValues _ lhs _ => operandSources lhs
  | .inQuery _ lhs members => operandSources lhs ++ querySources members
  | .quantified _ _ lhs members => operandSources lhs ++ querySources members
  | .existing _ members _ filter => querySources members ++ conditionSources filter
  | .notTrue part => conditionSources part
  | .any parts => listSources parts
  | .all parts => listSources parts
  | .verbatim _ => []

/-- The tables that some conditions read. -/
def listSources : List Condition → List String
  | [] => []
  | c :: rest => conditionSources c ++ listSources rest

/-- The tables that a filter reads. -/
def filterSources : Option Condition → List String
  | none => []
  | some c => conditionSources c

/-- The tables that a sub-query reads. -/
def querySources : Subquery → List String
  | .select value _ source filter => source.name :: (operandSources value ++ filterSources filter)
  | .verbatim _ => []

end

/-- Tables of all the names are there. -/
def locate (s : Store) (names : List String) : Except Refusal Unit :=
  names.forM fun name => do
    let _ ← s.find name

/-! ## References that mean nothing -/

/-- A place in the text of a statement. -/
structure Site where
  /-- The occurrences that surround it. -/
  scope : Scope Unit
  /-- How high the expressions are, one on top of the other, whose sub-queries it is in. -/
  height : Nat
  /-- Where it starts, in bytes. -/
  start : Nat

namespace Site

/-- The place that lies some pieces after another one. -/
def after (p : Site) (pieces : List Piece) : Site := { p with start := p.start + size pieces }

/-- The place, within one more occurrence. -/
def inside (p : Site) (f : Frame Unit) : Site := { p with scope := f :: p.scope }

/-- The place, in an expression of its own, which must not make everything too high. -/
def under (p : Site) (h : Height) : Except Refusal Site :=
  let height := p.height + h.own
  if greatestHeight < height then .error ⟨.tooDeep, none⟩ else .ok { p with height }

/-- A reference that stands at a place means something. -/
def check (p : Site) (table column : String) : Except Refusal Unit :=
  match p.scope.find? table column with
  | some _ => .ok ()
  | none => .error ⟨.noSuchColumn (table ++ "." ++ column), some p.start⟩

end Site

/-- The heading of an occurrence of a table that is there. -/
def headingOf (s : Store) (source : Table) : Frame Unit :=
  match s.find source.name with
  | .ok t => t.heading (occurrenceNames source)
  | .error _ => ⟨occurrenceNames source, [], none⟩

mutual

/-- The references of an operand that stands at a place mean something. -/
def checkOperand (s : Store) (p : Site) : Operand → Except Refusal Unit
  | .column c => p.check c.table c.name
  | .member label => p.check label Sql.valueAlias
  | .subquery q => do
    locate s (querySources q)
    checkQuery s (p.after [.sign "("]) q
  | .literal _ => .ok ()
  | .verbatim _ => .ok ()

/-- The references of a condition that stands at a place mean something. The members are looked at
before the operand that they are compared with. -/
def checkCondition (s : Store) (p : Site) : Condition → Except Refusal Unit
  | .compare relation lhs rhs => do
    checkOperand s p lhs
    checkOperand s (p.after (lhs.pieces .sqlite ++ Sql.relationPieces relation)) rhs
  | .inValues _ lhs _ => checkOperand s p lhs
  | .inQuery negated lhs members => do
    locate s (querySources members)
    checkQuery s (p.after (lhs.pieces .sqlite ++ Sql.membershipPieces negated)) members
    checkOperand s p lhs
  | .quantified _ _ lhs members => do
    checkOperand s p lhs
    checkQuery s p members
  | .existing negated members label filter => do
    locate s (querySources members ++ conditionSources filter)
    let inner := p.after (Sql.existencePieces negated)
    checkQuery s inner members
    let inner := (inner.after (members.pieces .sqlite ++ Sql.labelPieces label)).inside
      (memberFrame label ())
    checkCondition s (← inner.under (conditionHeight filter)) filter
  | .notTrue part => checkCondition s (p.after [.sign "("]) part
  | .any parts => checkList s (Sql.connective "OR") (p.after [.sign "("]) parts
  | .all parts => checkList s (Sql.connective "AND") (p.after [.sign "("]) parts
  | .verbatim _ => .ok ()

/-- The references of some conditions, with a gap between one and the next, mean something. -/
def checkList (s : Store) (gap : List Piece) (p : Site) : List Condition → Except Refusal Unit
  | [] => .ok ()
  | c :: rest => do
    checkCondition s p c
    checkList s gap (p.after (c.pieces .sqlite ++ gap)) rest

/-- The references of a filter whose `WHERE` stands at a place mean something. -/
def checkFilter (s : Store) (p : Site) : Option Condition → Except Refusal Unit
  | none => .ok ()
  | some c => do checkCondition s (← (p.after (Sql.connective "WHERE")).under (conditionHeight c)) c

/-- The references of a sub-query that stands at a place mean something. -/
def checkQuery (s : Store) (p : Site) : Subquery → Except Refusal Unit
  | .select value label source filter => do
    let p := (p.after (words ["SELECT"])).inside (headingOf s source)
    checkOperand s (← p.under (operandHeight value)) value
    checkFilter s (p.after (value.pieces .sqlite ++ Sql.fromPieces label source)) filter
  | .verbatim _ => .ok ()

end

/-- The references in a list of results that starts at a place mean something. -/
def checkColumns (p : Site) : List Column → Except Refusal Unit
  | [] => .ok ()
  | c :: rest => do
    p.check c.table c.name
    checkColumns (p.after (Sql.reference c.table c.name ++ [.sign ",", .blank])) rest

/-! ## Rows that pass a filter -/

/-- What is known in a row of an occurrence. -/
def rowScope (source : Table) (t : StoredTable) (r : Row) : Scope Cell :=
  [t.frame (occurrenceNames source) r]

/-- The rows of an occurrence that pass a filter, in their order. -/
def chosen (s : Store) (source : Table) (t : StoredTable) (filter : Option Condition) : List Row :=
  t.orderedRows.filter fun r => Condition.admits (reading s) (rowScope source t r) filter

/-- A value comes before another one, or they make no difference; absent values come first. -/
def isBefore (c : Collation) (a b : Datum) : Bool :=
  match order c a b with
  | some o => o != .gt
  | none => a.isNull

/-- Rows in order of what goes by the name of the row's number: that is a column, if the table has
one of that name. -/
def inOrder (t : StoredTable) (rows : List Row) : List Row :=
  match (t.columnPlace? rowNumberName).bind fun i => t.columns[i]?.map (i, ·) with
  | none => rows
  | some (i, c) =>
    rows.mergeSort fun a b =>
      isBefore c.collation (a.values[i]?.getD .null) (b.values[i]?.getD .null)

/-- The most values that one row of a query may have. -/
def mostColumns : Nat := 2000

/-- A question to the tables: what can be told beforehand to be wrong with it, and the rows that
answer it. -/
structure Question where
  check : Store → Except Refusal Unit
  rows : Store → List (List Value)
  /-- The locks on tables that it takes. -/
  locks : Store → List TableLock := fun _ => []

/-- What a table gives, if it is there. -/
def Store.rowsOf (s : Store) (name : String) (f : StoredTable → List (List Value)) :
    List (List Value) :=
  match s.find name with
  | .ok t => f t
  | .error _ => []

namespace Question

/-- What some tables answer. -/
def ask (q : Question) (s : Store) : Except Refusal (List (List Value)) := do
  q.check s
  return q.rows s

/-- The values of some columns in the rows that pass a filter. -/
def select (source : Table) (columns : List Column) (filter : Option Condition) : Question where
  check s := do
    let _ ← s.find source.name
    if mostColumns < columns.length then throw ⟨.tooManyColumns, none⟩
    locate s (filterSources filter)
    let p := Site.after ⟨[headingOf s source], 0, 0⟩ (words ["SELECT"])
    checkColumns p columns
    let p := p.after (Statement.selectBody source columns)
    checkFilter s p filter
    let p := p.after (Condition.wherePieces .sqlite filter ++ .blank :: words ["ORDER", "BY"])
    p.check source.label rowNumberName
  rows s := s.rowsOf source.name fun t =>
    (inOrder t (chosen s source t filter)).map fun r =>
      columns.map fun c => ((reading s).column (rowScope source t r) c).value.toValue
  locks s := TableLock.gather (s.readLocks (source.name :: filterSources filter))

/-- How many rows a table has. -/
def count (table : String) : Question where
  check s := do
    let _ ← s.find table
  rows s := s.rowsOf table fun t => [[.integer (Int64.ofNat t.rows.length)]]
  locks s := s.readLocks [table]

/-- Some literals. -/
def literals (values : List Value) : Question where
  check _ := if mostColumns < values.length then .error ⟨.tooManyColumns, none⟩ else .ok ()
  rows _ := [values.map fun v => (Datum.ofValue v).toValue]

end Question

end PooledSql.Sqlite
