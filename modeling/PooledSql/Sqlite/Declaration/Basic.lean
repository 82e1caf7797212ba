import PooledSql.Sqlite.Formula.Checker
import PooledSql.Sqlite.Formula.Use

/-!
# Declarations of tables

A table is declared with columns, each of a type, and with constraints on its rows, each with what
happens to a row that it keeps out.

A column is the number of its row by another name if it is the only primary key and its type is
exactly `INTEGER`. The other keys, and the columns whose values have to be unique, have an index.
-/

namespace PooledSql.Sqlite

/-- Two spellings of one name. -/
def sameName (a b : String) : Bool := a.map Char.toLower == b.map Char.toLower

/-- What happens to a row that a constraint keeps out. -/
inductive Resolution
  /-- Everything is undone that the transaction did. -/
  | rollback
  /-- Everything is undone that the statement did. -/
  | abort
  /-- The statement ends with what it did so far. -/
  | fail
  /-- The row is left out. -/
  | ignore
  /-- What is in the way of the row makes room for it. -/
  | replace
deriving DecidableEq, Repr

/-- What happens to rows whose reference is taken away. -/
inductive Action
  | nothing
  | restrict
  | setNull
  | setDefault
  | cascade
deriving DecidableEq, Repr

/-- A column in an index, by its place, and its collation if that is not the column's. -/
structure IndexedColumn where
  place : Nat
  collation : Option Collation := none
  /-- The greatest value comes first. -/
  descends : Bool := false
deriving DecidableEq, Repr

/-- An index, in which no row has the values of another one. -/
structure Index where
  columns : List IndexedColumn
  resolution : Option Resolution
  /-- It belongs to the primary key. -/
  isKey : Bool
  /-- None of its columns takes absent values, by what is declared before it. -/
  isFull : Bool := false
deriving DecidableEq, Repr

/-- A condition for each row. -/
structure Check where
  name : String
  condition : Formula
deriving Repr

/-- A reference of each row to one of a table. -/
structure Reference where
  /-- The places of the columns that refer. -/
  columns : List Nat
  table : String
  /-- The columns that are referred to, unless they are the primary key. -/
  targets : Option (List String)
  onDelete : Action := .nothing
  onUpdate : Action := .nothing
  /-- It need not lead anywhere before the transaction ends. -/
  isDeferred : Bool := false
deriving DecidableEq, Repr

/-- The types of columns that a strict table can have. -/
inductive StrictType
  | any
  | blob
  | int
  | integer
  | real
  | text
deriving DecidableEq, Repr

namespace StrictType

/-- The types by name. -/
def named : List (String × StrictType) :=
  [("ANY", .any), ("BLOB", .blob), ("INT", .int), ("INTEGER", .integer), ("REAL", .real),
    ("TEXT", .text)]

/-- The type of a name. -/
def ofName? (name : String) : Option StrictType := named.lookup (name.map Char.toUpper)

/-- The name of a type. -/
def name (t : StrictType) : String := ((named.find? fun p => p.2 == t).map Prod.fst).getD ""

end StrictType

/-- A column as it is declared. -/
structure ColumnDeclaration where
  name : String
  type : String
  collation : Collation := .binary
  /-- It takes no absent values, and this is what happens to one. -/
  required : Option Resolution := none
  /-- What takes the place of an absent value. -/
  default : Option Formula := none
  /-- What makes its values. -/
  generator : Option Formula := none
  /-- The values that it makes are kept in the row. -/
  isKept : Bool := false
deriving Repr

/-- A table as it is declared. -/
structure TableDeclaration where
  name : String
  columns : List ColumnDeclaration := []
  /-- The place of the column that is the number of the row. -/
  key : Option Nat := none
  /-- What happens to a row whose number is taken. -/
  keyResolution : Resolution := .abort
  /-- The greatest number was to come first, which would matter if it were no number. -/
  keyDescends : Bool := false
  /-- The place of the index in whose order the rows are, if they have no numbers. -/
  ordering : Option Nat := none
  /-- The indexes, from the oldest on. -/
  indexes : List Index := []
  checks : List Check := []
  /-- The references, from the youngest on. -/
  references : List Reference := []
  /-- The numbers of deleted rows are not used again. -/
  counts : Bool := false
  /-- Columns take values of their types only. -/
  isStrict : Bool := false
  /-- The text that declares it. -/
  text : String := ""
deriving Repr

/-- The name of the number of a row. -/
def rowNumberName : String := "rowid"

/-- The names of the number of the row. -/
def rowNumberNames : List String := [rowNumberName, "oid", "_rowid_"]

/-- A name of the number of the row. -/
def isRowNumberName (name : String) : Bool := rowNumberNames.any (sameName name)

namespace TableDeclaration

/-- The place of the column of a name. -/
def place? (t : TableDeclaration) (name : String) : Option Nat :=
  t.columns.findIdx? fun c => sameName c.name name

/-- The place of the last column. -/
def last (t : TableDeclaration) : Nat := t.columns.length - 1

/-- Changes the last column. -/
def onLast (t : TableDeclaration) (f : ColumnDeclaration → ColumnDeclaration) :
    TableDeclaration :=
  { t with columns := t.columns.modify t.last f }

/-- The collation of a column in an index. -/
def collationOf (t : TableDeclaration) (c : IndexedColumn) : Collation :=
  c.collation.getD ((t.columns[c.place]?.map ColumnDeclaration.collation).getD .binary)

/-- Two indexes have the same columns with the same collations. -/
def isSameIndex (t : TableDeclaration) (a b : List IndexedColumn) : Bool :=
  a.map (fun c => (c.place, t.collationOf c)) == b.map fun c => (c.place, t.collationOf c)

/-- Adds an index, unless there is one of the same columns, which takes over what is new. -/
def addIndex (t : TableDeclaration) (index : Index) : TableDeclaration :=
  match t.indexes.findIdx? fun i => t.isSameIndex i.columns index.columns with
  | some i =>
    let merged (old : Index) : Index :=
      { old with
        resolution := old.resolution <|> index.resolution
        isKey := old.isKey || index.isKey }
    { t with indexes := t.indexes.modify i merged }
  | none => { t with indexes := t.indexes ++ [index] }

/-- Another index of the same columns has another resolution. -/
def conflicts (t : TableDeclaration) (index : Index) : Bool :=
  t.indexes.any fun i =>
    t.isSameIndex i.columns index.columns && i.resolution.isSome && index.resolution.isSome &&
      i.resolution != index.resolution

/-- What a name means in a formula. -/
def isKnown (t : TableDeclaration) (place : Place) (qualifiers : List String)
    (name : String) : Bool :=
  let isOwn :=
    match qualifiers with
    | [] => true
    | [table] => sameName table t.name
    | [database, table] =>
      sameName table t.name && (place == .check || sameName database "main")
    | _ => false
  let isNumber := place == .check && t.ordering.isNone && isRowNumberName name
  isOwn && ((t.place? name).isSome || isNumber)

/-- What can be wrong with a formula of the table. -/
def checker (t : TableDeclaration) (place : Place) : Formula.Checker := ⟨place, t.isKnown place⟩

/-- What is wrong with the formulas of the table. What is found last is reported. -/
def formulaFault? (t : TableDeclaration) : Option Refusal :=
  let ofChecks := t.checks.findSome? fun c => (t.checker .check).fault? none c.condition
  let ofGenerators := (t.columns.filterMap ColumnDeclaration.generator).foldl
    (t.checker .generator).fault? ofChecks
  let isOnlyGenerated := t.columns.all fun c => c.generator.isSome
  if isOnlyGenerated then some ⟨.onlyGenerated, none⟩ else ofGenerators

/-! ### Options -/

/-- A column belongs to the primary key, and is not the number of the row. -/
def isInKey (t : TableDeclaration) (place : Nat) : Bool :=
  t.indexes.any fun i => i.isKey && i.columns.any fun c => c.place == place

/-- The columns of the primary key take no absent values. -/
def requireKey (t : TableDeclaration) : TableDeclaration :=
  let require (i : Nat) (c : ColumnDeclaration) : ColumnDeclaration :=
    if t.isInKey i then { c with required := c.required <|> some .abort } else c
  { t with columns := t.columns.mapIdx require }

/-- What is wrong with the type of a column, if the table is to be strict. -/
def strictFault? (t : TableDeclaration) : Option StatementFault :=
  t.columns.findSome? fun c =>
    if (StrictType.ofName? c.type).isSome then none
    else if c.type.isEmpty then some (.missingType t.name c.name)
    else some (.unknownType t.name c.name c.type)

/-- The table with its rows in the order of the primary key instead of numbers. -/
def orderByKey (t : TableDeclaration) : Except StatementFault TableDeclaration := do
  if t.counts then throw .countingByKey
  let t ←
    match t.key with
    | none => pure t
    | some place =>
      let columns : List IndexedColumn := [{ place, descends := t.keyDescends }]
      let resolution := if t.keyResolution = .abort then none else some t.keyResolution
      let index : Index := { columns, resolution, isKey := true }
      if t.conflicts index then throw .conflictingResolutions
      pure ({ t with key := none }.addIndex index)
  match t.indexes.findIdx? Index.isKey with
  | none => throw (.missingKey t.name)
  | some i =>
    let isSame (a b : IndexedColumn) : Bool :=
      a.place == b.place && t.collationOf a == t.collationOf b
    let narrowed (index : Index) : Index :=
      { index with columns := index.columns.eraseDupsBy isSame, isFull := true }
    return { t with indexes := t.indexes.modify i narrowed, ordering := some i }.requireKey

/-- The table with its options. -/
def withOptions (t : TableDeclaration) (isOrdered : Bool) : Except StatementFault TableDeclaration := do
  if t.isStrict then t.strictFault?.forM throw
  let t := if t.isStrict then t.requireKey else t
  if isOrdered then t.orderByKey else return t

/-! ### Columns that make their values -/

/-- What the names in a formula of the table stand for, before there are any rows. -/
def blankNames (t : TableDeclaration) : Names := fun _ name =>
  match (t.place? name).bind fun i => t.columns[i]? with
  | some c => some ⟨⟨.null, some (Affinity.ofType c.type), some c.collation⟩, false⟩
  | none => if isRowNumberName name then some ⟨⟨.null, some .integer, none⟩, false⟩ else none

/-- What is found when a column is made ready whose values are not kept, given the columns that are
being made ready already. It must not be one of them. -/
def columnFaults (t : TableDeclaration) : Nat → List Nat → String → List UseFault
  | 0, _, _ => []
  | n + 1, busy, name =>
    match t.place? name with
    | none => []
    | some i =>
      match t.columns[i]? with
      | none => []
      | some c =>
        match if c.isKept then none else c.generator with
        | none => []
        | some f =>
          if busy.contains i then [.of (.circularGenerator c.name)]
          else f.valueFaults ⟨⟨some .generator, t.blankNames⟩, columnFaults t n (i :: busy)⟩

/-- What is found when all columns are made ready. -/
def readingFault? (t : TableDeclaration) : Option StatementFault :=
  let faults := t.columns.flatMap fun c => t.columnFaults (t.columns.length + 1) [] c.name
  (UseFault.last? none faults).map Refusal.fault

end TableDeclaration

end PooledSql.Sqlite
