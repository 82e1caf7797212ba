import PooledSql.Sqlite.Declaration.Basic
import PooledSql.Sqlite.Formula.Reader

/-!
# Reading declarations of tables

What the text of a `CREATE TABLE` declares. The units of the text are taken one after the other, and
the first one that cannot stand where it does, or that follows something that cannot be declared,
ends the reading.
-/

namespace PooledSql.Sqlite

/-- A term of a list of columns, whether its greatest value comes first, and where absent values are
to be in its order. -/
structure IndexTerm where
  formula : Formula
  descends : Bool := false
  nulls : Option String := none

/-- A declaration as far as it is read. -/
structure Draft where
  table : TableDeclaration
  hasKey : Bool := false
  /-- The name that was given to the constraints that follow. -/
  constraintName : Option String := none
  /-- Where the parenthesis ends that closes the columns. -/
  stop : Nat := 0
  /-- The rows are to be in the order of the primary key, without numbers. -/
  isOrdered : Bool := false

namespace Draft

open Scanner

/-- The most columns that a table may have. -/
def mostTableColumns : Nat := 2000

/-- What names of the program's own begin with. -/
def reservedStart : String := "sqlite_"

/-- A name is one of the program's own. -/
def isReserved (name : String) : Bool :=
  reservedStart.toList.isPrefixOf (name.toList.map Char.toLower)

/-- Checks the name of the table, given which names are taken. -/
def checkName (l : Lexeme) (taken : String → Bool) : Scanner Unit :=
  if isReserved l.content then complain (.reservedName l.content) none
  else if taken l.content then complain (.tableExists (String.ofList l.spelling)) (some l.start)
  else return ()

/-- The words that a type may end with without being part of it. -/
def generationMark (type : List Char) : List Char :=
  let ends (word : String) (s : List Char) : Option (List Char) :=
    let rest := s.take (s.length - word.length)
    if (s.drop rest.length).map Char.toLower = word.toList ∧ word.length ≤ s.length then
      some (rest.reverse.dropWhile Char.isWhitespace).reverse
    else none
  match if type.length < 16 then none else ends "always" type with
  | none => type
  | some rest => (ends "generated" rest).getD rest

/-- A quote that a name can start with. -/
def isQuote (c : Char) : Bool := c == '"' || c == '\'' || c == '`' || c == '['

/-- A type without its quotes, if it is nothing but one name in quotes. -/
def unquotedType (type : List Char) : List Char :=
  match type with
  | [] => []
  | first :: rest =>
    if isQuote first && 2 ≤ rest.length && !rest.dropLast.any isQuote then rest.dropLast else type

/-- Adds a column. -/
def addColumn (d : Draft) (name type : String) : Scanner Draft := do
  if mostTableColumns ≤ d.table.columns.length then
    complain (.tooManyTableColumns d.table.name) none
  else if (d.table.place? name).isSome then complain (.duplicateColumn name) none
  let columns := d.table.columns ++ [{ name := name, type := type }]
  return { d with table := { d.table with columns }, constraintName := none }

/-- Changes the table. -/
def onTable (d : Draft) (f : TableDeclaration → TableDeclaration) : Draft :=
  { d with table := f d.table }

/-- Changes the last column. -/
def onLast (d : Draft) (f : ColumnDeclaration → ColumnDeclaration) : Draft :=
  d.onTable fun t => t.onLast f

/-- The last column. -/
def lastColumn (d : Draft) : ColumnDeclaration :=
  d.table.columns.getLast?.getD { name := "", type := "" }

/-- The name that a formula is in a list of columns, where a string is a name. -/
def asColumn : Formula → Formula
  | .literal (.text bytes) start =>
    .named [] (String.ofList (Text.Utf8.repair bytes)) .quoted start
  | f => f

/-- The columns of an index, in order: each is named, maybe with a collation. -/
def indexedColumns (t : TableDeclaration) : List IndexTerm → Except Refusal (List IndexedColumn)
  | [] => .ok []
  | term :: rest => do
    let f : Formula :=
      match term.formula with
      | .collated collation part => .collated collation (asColumn part)
      | f => asColumn f
    match (t.checker .index).fault? none f with
    | some refusal => throw refusal
    | none => pure ()
    let place? : Option Nat :=
      match f.uncollated with
      | .named [] name _ _ => t.place? name
      | _ => none
    let asked : Option String :=
      match f with
      | .collated collation _ => some collation
      | _ => none
    match place?, asked.map fun name => (name, Collation.named? name) with
    | none, _ => throw ⟨.prohibited "expressions" "PRIMARY KEY and UNIQUE constraints", none⟩
    | some _, some (name, none) => throw ⟨.unknownCollation name, none⟩
    | some place, collation =>
      return ⟨place, collation.bind Prod.snd, term.descends⟩ :: (← indexedColumns t rest)

/-- What is wrong with the places that absent values are to have in an order. -/
def nullsFault? (terms : List IndexTerm) : Option StatementFault :=
  (terms.findSome? IndexTerm.nulls).map .placedNulls

/-- Adds an index, as long as nothing is wrong. -/
def addIndex (d : Draft) (terms : List IndexTerm) (resolution : Option Resolution)
    (isKey : Bool) : Scanner Draft := do
  if (← get).complaint.isSome then return d
  else
    match nullsFault? terms, indexedColumns d.table terms with
    | some fault, _ =>
      complain fault none
      return d
    | none, .error refusal =>
      complain refusal.fault refusal.offset
      return d
    | none, .ok columns =>
      let isFull := columns.all fun c => d.table.columns[c.place]?.any fun x => x.required.isSome
      let index : Index := { columns, resolution, isKey, isFull }
      if d.table.conflicts index then complain .conflictingResolutions none
      return d.onTable fun t => t.addIndex index

/-- The last column, as a list of columns has it. -/
def lastTerm (d : Draft) : IndexTerm := { formula := .named [] d.lastColumn.name .quoted 0 }

/-- Makes some columns the primary key. -/
def addKey (d : Draft) (terms : List IndexTerm) (descending counts : Bool)
    (resolution : Option Resolution) : Scanner Draft := do
  if d.hasKey then
    complain (.severalKeys d.table.name) none
    return d
  let d := { d with hasKey := true }
  let placeOf (term : IndexTerm) : Option Nat :=
    match asColumn term.formula.uncollated with
    | .named [] name _ _ => d.table.place? name
    | _ => none
  let places := terms.filterMap placeOf
  let declared := places.filterMap fun i => d.table.columns[i]?
  if declared.any fun c => c.generator.isSome then complain .generatedKey none
  match terms, places, declared with
  | [term], [place], [column] =>
    if column.type.map Char.toUpper == "INTEGER" && !descending then
      (nullsFault? terms).forM fun fault => complain fault none
      return d.onTable fun t =>
        { t with
          key := some place
          counts
          keyResolution := resolution.getD .abort
          keyDescends := term.descends }
  | _, _, _ => pure ()
  if counts then
    complain .misplacedCounter none
    return d
  d.addIndex terms resolution true

/-- What is to happen to a row that a constraint keeps out. -/
def resolution? : Scanner (Option Resolution) := do
  if ← skip? "ON" then
    skip "CONFLICT"
    return some (← choose [("ROLLBACK", .rollback), ("ABORT", .abort), ("FAIL", .fail),
      ("IGNORE", .ignore), ("REPLACE", .replace)])
  else return none

/-- A formula in parentheses of which one is open, and where it ends. -/
def closedFormula : Scanner (Formula × Nat) := do
  let f ← Formula.read
  let closing ← take fun l => l.isSpelled ")"
  return (f, closing.start)

/-- A blank in the text of a condition. -/
def isGap (c : Char) : Bool := c == ' ' || (decide (9 ≤ c.toNat) && decide (c.toNat ≤ 13))

/-- The name of a condition that was given none: its text, or the name that this starts with. -/
def conditionName (s : List Char) : String :=
  let s := ((s.dropWhile isGap).reverse.dropWhile isGap).reverse
  let unquoted (quote : Char) (rest : List Char) : String :=
    String.ofList (((Text.Quoted.unquote quote rest).map Prod.fst).getD rest)
  match s with
  | '[' :: rest => unquoted ']' rest
  | c :: rest => if c = '"' ∨ c = '\'' ∨ c = '`' then unquoted c rest else String.ofList s
  | [] => ""

/-- A condition. -/
def check (d : Draft) (text : List Char) : Scanner Draft := do
  let opening ← take fun l => l.isSpelled "("
  let (condition, stop) ← closedFormula
  let own := conditionName ((Text.Utf8.slice? (opening.start + 1) stop text).getD [])
  let name := d.constraintName.getD own
  return d.onTable fun t => { t with checks := t.checks ++ [⟨name, condition⟩] }

/-- A unit that stands for a value by itself. -/
def isValue (l : Lexeme) : Bool :=
  l.isNumber || l.isBytes || l.kind == .text || l.isSpelled "NULL" ||
    (l.kind == .word && Formula.timeWords.contains l.capitals)

/-- What a unit stands for. -/
def valueOf (negated : Bool) (l : Lexeme) : Scanner Formula := do
  let f : Formula ←
    if l.isNumber then Formula.numeral l
    else if l.isBytes then pure (.literal (Formula.byteString l) l.start)
    else if l.isSpelled "NULL" then pure (.literal .null l.start)
    else if l.kind = .word && Formula.timeWords.contains l.capitals then
      pure (.apply (.call l.content {}) l.start [])
    else pure (.literal (.ofText l.content) l.start)
  return if negated then .apply .minus 0 [f] else f

/-- A word for a value: a truth value or a text. -/
def wordValue (l : Lexeme) : Formula :=
  match if l.kind = .word then Formula.truthWord? l.content else none with
  | some b => .truth b
  | none => .literal (.ofText l.content) l.start

/-- What takes the place of an absent value. -/
def default (d : Draft) : Scanner Draft := do
  let f ←
    if ← skip? "(" then pure (← closedFormula).1
    else if ← skip? "+" then valueOf false (← take isValue)
    else if ← skip? "-" then valueOf true (← take isValue)
    else if ← sees isValue then valueOf false (← take isValue)
    else
      let isWord (l : Lexeme) : Bool := l.isName || l.isWord Lexeme.hintWord
      pure (wordValue (← take fun l => isWord l && l.kind != .text))
  if !f.isConstant then complain (.variableDefault d.lastColumn.name) none
  else if d.lastColumn.generator.isSome then complain .generatedDefault none
  return d.onLast fun c => { c with default := some f }

/-- What makes the values of a column. -/
def generator (d : Draft) : Scanner Draft := do
  skip "("
  let (f, _) ← closedFormula
  let mark := (← take? fun l => l.isName && l.kind != .text).map Lexeme.capitals
  let isFine := [none, some "VIRTUAL", some "STORED"].contains mark
  let last := d.lastColumn
  if last.default.isSome || last.generator.isSome || !isFine then
    complain (.misplacedGenerator last.name) none
    return d
  let isInKey := d.table.key == some d.table.last ||
    d.table.indexes.any fun i => i.isKey && i.columns.any fun c => c.place == d.table.last
  if isInKey then complain .generatedKey none
  return d.onLast fun c => { c with generator := some f, isKept := mark == some "STORED" }

/-- The primary key, after its first word. -/
def primaryKey (d : Draft) : Scanner Draft := do
  skip "KEY"
  let descending := (← choose? [("ASC", false), ("DESC", true)]).getD false
  let resolution ← resolution?
  let counts ← skip? "AUTOINCREMENT"
  d.addKey [{ d.lastTerm with descends := descending }] descending counts resolution

/-! ### References -/

/-- Names with commas between them, in parentheses, if there are any. -/
def names? : Scanner (Option (List String)) := do
  if ← skip? "(" then
    let item : Scanner String := do
      let l ← take Lexeme.isReference
      let isCollated ← skip? "COLLATE"
      if isCollated then
        let _ ← take Lexeme.isName
      let isSorted := (← choose? [("ASC", ()), ("DESC", ())]).isSome
      if isCollated || isSorted then
        complain (.surplusAfterColumn (String.ofList l.spelling)) none
      return l.content
    let names ← listOf item (← Formula.enoughSteps)
    skip ")"
    return some names
  else return none

/-- What is to happen to rows whose reference is taken away. -/
def action : Scanner Action := do
  if ← skip? "SET" then choose [("NULL", .setNull), ("DEFAULT", .setDefault)]
  else if ← skip? "NO" then choose [("ACTION", .nothing)]
  else choose [("CASCADE", .cascade), ("RESTRICT", .restrict)]

/-- The terms of a reference. -/
def referenceTerms : Nat → Reference → Scanner Reference
  | 0, _ => refuseEnd
  | n + 1, r => do
    if ← skip? "ON" then
      let f ← choose
        [("DELETE", fun (a : Action) => { r with onDelete := a }),
          ("UPDATE", fun a => { r with onUpdate := a }), ("INSERT", fun _ => r)]
      referenceTerms n (f (← action))
    else if ← skip? "MATCH" then
      let _ ← take Lexeme.isReference
      referenceTerms n r
    else return r

/-- A reference of some columns, after its first word. -/
def reference (d : Draft) (columns : Option (List String)) : Scanner Draft := do
  let l ← take Lexeme.isReference
  let targets ← names?
  let places := columns.elim [d.table.last] (List.filterMap d.table.place?)
  let r ← referenceTerms (← Formula.enoughSteps) { columns := places, table := l.content, targets }
  let count := (targets.map List.length).getD places.length
  match columns with
  | none =>
    if count ≠ 1 then
      complain (.severalTargets d.lastColumn.name (String.ofList l.spelling)) (some l.start)
  | some names =>
    if (targets.map List.length).getD names.length ≠ names.length then
      complain .uncountedTargets none
    else
      match names.find? fun name => (d.table.place? name).isNone with
      | some name => complain (.unknownKeyColumn name) none
      | none => pure ()
  return d.onTable fun t => { t with references := r :: t.references }

/-- When the last reference has to lead somewhere. -/
def deferral (d : Draft) (isDeferrable : Bool) : Scanner Draft := do
  let isLate ←
    if ← skip? "INITIALLY" then choose [("DEFERRED", true), ("IMMEDIATE", false)] else pure false
  let isDeferred := isDeferrable && isLate
  return d.onTable fun t => { t with references := t.references.modify 0 ({ · with isDeferred }) }

/-! ### Constraints -/

/-- The words that a constraint on a column can start with. -/
inductive ColumnConstraint
  | name
  | required
  | absent
  | unique
  | key
  | collation
  | default
  | check
  | reference
  | deferral
  | generator (isMarked : Bool)
deriving DecidableEq, Repr

/-- The words that constraints on a column start with. -/
def columnConstraints : List (String × ColumnConstraint) :=
  [("CONSTRAINT", .name), ("NOT", .required), ("NULL", .absent), ("UNIQUE", .unique),
    ("PRIMARY", .key), ("COLLATE", .collation), ("DEFAULT", .default), ("CHECK", .check),
    ("REFERENCES", .reference), ("DEFERRABLE", .deferral), ("GENERATED", .generator true),
    ("AS", .generator false)]

/-- A constraint on the last column, after its first word. -/
def columnConstraint (text : List Char) (d : Draft) : ColumnConstraint → Scanner Draft
  | .name => do return { d with constraintName := some (← take Lexeme.isReference).content }
  | .required => do
    if ← skip? "DEFERRABLE" then d.deferral false
    else
      skip "NULL"
      let resolution ← resolution?
      return d.onLast fun c => { c with required := some (resolution.getD .abort) }
  | .absent => do
    let _ ← resolution?
    return d
  | .unique => do d.addIndex [d.lastTerm] (← resolution?) false
  | .key => d.primaryKey
  | .collation => do
    let l ← take Lexeme.isName
    match Collation.named? l.content with
    | some collation => return d.onLast fun c => { c with collation }
    | none =>
      complain (.unknownCollation l.content) none
      return d
  | .default => d.default
  | .check => d.check text
  | .reference => d.reference none
  | .deferral => d.deferral true
  | .generator isMarked => do
    if isMarked then
      skip "ALWAYS"
      skip "AS"
    d.generator

/-- The constraints on the last column. -/
def constraints (text : List Char) : Nat → Draft → Scanner Draft
  | 0, _ => refuseEnd
  | n + 1, d => do
    match ← choose? columnConstraints with
    | some c => constraints text n (← d.columnConstraint text c)
    | none => return d

/-- The terms of an index, in parentheses, and whether the numbers of deleted rows are not used
again. -/
def indexTerms : Scanner (List IndexTerm × Bool) := do
  skip "("
  let item : Scanner IndexTerm := do
    let f ← Formula.read
    let descends := (← choose? [("ASC", false), ("DESC", true)]).getD false
    let nulls ←
      if ← skip? "NULLS" then pure (some (← choose [("FIRST", "FIRST"), ("LAST", "LAST")]))
      else pure none
    return ⟨f, descends, nulls⟩
  let items ← listOf item (← Formula.enoughSteps)
  let counts ← skip? "AUTOINCREMENT"
  skip ")"
  return (items, counts)

/-- The words that a constraint on a table can start with. -/
inductive TableConstraint
  | name
  | key
  | unique
  | check
  | reference
deriving DecidableEq, Repr

/-- The words that constraints on a table start with. -/
def tableConstraints : List (String × TableConstraint) :=
  [("CONSTRAINT", .name), ("PRIMARY", .key), ("UNIQUE", .unique), ("CHECK", .check),
    ("FOREIGN", .reference)]

/-- A constraint on a table, after its first word. -/
def tableConstraint (text : List Char) (d : Draft) : TableConstraint → Scanner Draft
  | .name => do return { d with constraintName := some (← take Lexeme.isReference).content }
  | .key => do
    skip "KEY"
    let (terms, counts) ← indexTerms
    d.addKey terms false counts (← resolution?)
  | .unique => do
    let (terms, _) ← indexTerms
    d.addIndex terms (← resolution?) false
  | .check => do
    let d ← d.check text
    let _ ← resolution?
    return d
  | .reference => do
    skip "KEY"
    let columns ← names?
    skip "REFERENCES"
    let d ← d.reference (some (columns.getD []))
    if ← skip? "NOT" then
      skip "DEFERRABLE"
      d.deferral false
    else if ← skip? "DEFERRABLE" then d.deferral true
    else return d

/-- The parenthesis that closes the columns. -/
def closing (d : Draft) : Scanner Draft := do
  return { d with stop := (← take fun l => l.isSpelled ")").stop }

/-- More constraints on the table, up to the parenthesis that closes them. -/
def moreConstraints (text : List Char) : Nat → Draft → Scanner Draft
  | 0, _ => refuseEnd
  | n + 1, d => do
    if ← sees fun l => l.isSpelled ")" then d.closing
    else
      let d := if ← skip? "," then { d with constraintName := none } else d
      moreConstraints text n (← d.tableConstraint text (← choose tableConstraints))

/-- Columns, and the constraints on the table that follow them. -/
def columns (text : List Char) : Nat → Draft → Scanner Draft
  | 0, _ => refuseEnd
  | n + 1, d => do
    let l ← take Lexeme.isReference
    let (extent, _) ← Formula.typeName (← Formula.enoughSteps)
    let type := extent.elim [] fun e => (Text.Utf8.slice? e.1.start e.2.stop text).getD []
    let d ← d.addColumn l.content (String.ofList (unquotedType (generationMark type)))
    let d ← constraints text n d
    if ← skip? "," then
      if ← sees Lexeme.isReference then columns text n d
      else moreConstraints text n (← d.tableConstraint text (← choose tableConstraints))
    else d.closing

/-! ### Options -/

/-- An option of the table. -/
def tableOption (d : Draft) : Scanner Draft := do
  let isWithout ← skip? "WITHOUT"
  let l ← take Lexeme.isReference
  match isWithout, l.capitals with
  | true, "ROWID" => return { d with isOrdered := true }
  | false, "STRICT" => return d.onTable fun t => { t with isStrict := true }
  | _, _ =>
    complain (.unknownOption (String.ofList l.spelling)) none
    return d

/-- More options, each after a comma. -/
def moreOptions : Nat → Draft → Scanner Draft
  | 0, _ => refuseEnd
  | n + 1, d => do if ← skip? "," then moreOptions n (← d.tableOption) else return d

/-- The options of the table; the first one may be missing. -/
def tableOptions (d : Draft) : Scanner Draft := do
  moreOptions (← Formula.enoughSteps) (← if ← sees Lexeme.isReference then d.tableOption else pure d)

/-- Checks the declaration as a whole. -/
def checkTable (d : Draft) : Scanner TableDeclaration := do
  match d.table.withOptions d.isOrdered with
  | .error fault =>
    complain fault none
    return d.table
  | .ok t =>
    t.formulaFault?.forM fun r => complain r.fault r.offset
    return t

/-- The text of the declaration, whose name starts at a place. It ends with the columns or, if there
are options, with what follows these. -/
def keptText (d : Draft) (text : List Char) (start : Nat) : Scanner String := do
  let next := (← get).units.head?.map Lexeme.start
  let stop := if d.table.isStrict || d.isOrdered then next.getD (Text.Utf8.byteCount text) else d.stop
  let kept := (Text.Utf8.slice? start stop text).getD []
  return String.ofList ("CREATE TABLE ".toList ++ kept.takeWhile (· != endMark))

/-- A declaration, given which names of tables are taken. -/
def declaration (taken : String → Bool) (text : List Char) : Scanner TableDeclaration := do
  skip "CREATE"
  skip "TABLE"
  let l ← take Lexeme.isReference
  checkName l taken
  skip "("
  let d ← columns text (← Formula.enoughSteps) { table := { name := l.content } }
  let d ← d.tableOptions
  let t ← d.checkTable
  return { t with text := ← d.keptText text l.start }

end Draft

/-- Reads the text of a `CREATE TABLE`, given which names of tables are taken. -/
def TableDeclaration.read (taken : String → Bool) (text : String) :
    Except Refusal TableDeclaration :=
  Scanner.runOn (Draft.declaration taken text.toList) (lexemes text)

end PooledSql.Sqlite
