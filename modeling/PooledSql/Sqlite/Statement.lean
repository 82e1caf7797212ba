import PooledSql.Sql.Expression
import PooledSql.Sqlite.Script

/-!
# Statements

What a connection is asked to do, and the text in which it is asked. A text is refused before any
table is looked at if its form is wrong: if it has something in it that is no unit, if a list is
empty or ends too early, if rows are of different widths, or if its expressions are nested too
deeply. What comes first in the text is reported.
-/

namespace PooledSql.Sqlite

open Sql (Operand Condition Subquery Piece words valueList parenthesized separated size)

/-- A statement. -/
inductive Statement
  | create (table : String) (columns : List (String × String))
  | insert (table : String) (rows : List (List Value))
  | delete (source : Table) (filter : Option Condition)
  | update (source : Table) (column : String) (value : Value) (filter : Option Condition)
  | select (source : Table) (columns : List Column) (filter : Option Condition)
  | count (table : String)
  | literals (values : List Value)
  | version
  | setting (name : String)
  | begin
  | commit
  | rollback
  /-- A text that has its own say. -/
  | verbatim (text : String)

/-! ## Text -/

/-- Some pieces with commas between them. -/
def listed (parts : List (List Piece)) : List Piece := separated [.sign ",", .blank] parts

namespace Statement

/-- What is in front of the rows that are inserted. -/
def insertHead (table : String) : List Piece :=
  words ["INSERT", "INTO"] ++ .name table :: .blank :: words ["VALUES"]

/-- What is in front of the filter of a deletion. -/
def deleteHead (source : Table) : List Piece := words ["DELETE", "FROM"] ++ [.name source.name]

/-- What is in front of the filter of an update. -/
def updateHead (source : Table) (column : String) (value : Value) : List Piece :=
  words ["UPDATE"] ++ .name source.name :: .blank :: words ["SET"] ++ .name column :: .blank ::
    .sign "=" :: .blank :: Piece.literal .sqlite value

/-- What is in front of the filter of a selection, less the word that starts it. -/
def selectBody (source : Table) (columns : List Column) : List Piece :=
  listed (columns.map fun c => Sql.reference c.table c.name) ++ .blank :: words ["FROM"] ++
    Sql.sourcePieces source

/-- The pieces of a statement. -/
def pieces : Statement → List Piece
  | .create table columns =>
    words ["CREATE", "TABLE"] ++ .name table :: .blank ::
      parenthesized (listed (columns.map fun c => [.name c.1, .blank, .verbatim c.2]))
  | .insert table rows =>
    insertHead table ++ listed (rows.map fun r => parenthesized (valueList .sqlite r))
  | .delete source filter => deleteHead source ++ Condition.wherePieces .sqlite filter
  | .update source column value filter =>
    updateHead source column value ++ Condition.wherePieces .sqlite filter
  | .select source columns filter =>
    words ["SELECT"] ++ selectBody source columns ++ Condition.wherePieces .sqlite filter ++
      .blank :: words ["ORDER", "BY"] ++ [.name source.label, .sign ".", .word "rowid"]
  | .count table =>
    words ["SELECT"] ++ .word "COUNT" :: parenthesized [.sign "*"] ++ .blank :: words ["FROM"] ++
      [.name table]
  | .literals values => words ["SELECT"] ++ valueList .sqlite values
  | .version => words ["SELECT"] ++ .word "sqlite_version" :: parenthesized []
  | .setting name => words ["PRAGMA"] ++ [.verbatim name]
  | .begin => [.word "BEGIN"]
  | .commit => [.word "COMMIT"]
  | .rollback => [.word "ROLLBACK"]
  | .verbatim text => [.verbatim text]

/-- The text of a statement. -/
def text (s : Statement) : String := String.ofList (Sql.spell s.pieces)

/-- The statements that a batch consists of which is given by one statement: in a declaration, the
types of the columns may end it, and other statements follow. -/
def batch (s : Statement) : List Statement :=
  match s with
  | .create _ _ => s :: (remainders s.text).map .verbatim
  | _ => [s]

end Statement

/-! ## Depth -/

/-- How high an expression is, and how high the highest one is that stands in the `FROM` of one of
its sub-queries, which does not add to its height. -/
structure Height where
  own : Nat
  apart : Nat := 0

/-- The height of an expression that puts some others together. -/
def Height.above (parts : List Height) : Height :=
  ⟨1 + (parts.map Height.own).foldl max 0, (parts.map Height.apart).foldl max 0⟩

/-- The height of a literal: a minus is an expression of its own. -/
def literalHeight (v : Value) : Nat := if Piece.isSigned v then 2 else 1

/-- The height of the members of a list. A single one is an expression below another one of its own,
with which it is compared. -/
def membersHeight : List Value → Height
  | [v] => ⟨literalHeight v + 1, 0⟩
  | members => ⟨(members.map literalHeight).foldl max 0, 0⟩

/-- The height of a chain: each link stands above all those before it. -/
def Height.chain : List Height → Height
  | [] => ⟨0, 0⟩
  | first :: rest => rest.foldl (fun h part => Height.above [h, part]) first

/-- The height of a condition that may be denied. -/
def Height.maybeNot (negated : Bool) (h : Height) : Height := if negated then .above [h] else h

mutual

/-- The height of an operand. -/
def operandHeight : Operand → Height
  | .column _ => ⟨2, 0⟩
  | .member _ => ⟨2, 0⟩
  | .literal v => ⟨literalHeight v, 0⟩
  | .subquery q => .above (queryHeights q)
  | .verbatim _ => ⟨1, 0⟩

/-- The height of a condition. -/
def conditionHeight : Condition → Height
  | .compare _ lhs rhs => .above [operandHeight lhs, operandHeight rhs]
  | .inValues negated lhs members =>
    .maybeNot negated (.above [operandHeight lhs, membersHeight members])
  | .inQuery negated lhs members =>
    .maybeNot negated (.above (operandHeight lhs :: queryHeights members))
  | .quantified _ _ lhs members => .above (operandHeight lhs :: queryHeights members)
  | .existing negated members _ filter =>
    let apart := (queryHeights members).map fun h => max h.own h.apart
    let inner := Height.above [⟨1, 0⟩, conditionHeight filter]
    .maybeNot negated { inner with apart := apart.foldl max inner.apart }
  | .notTrue part => .above [conditionHeight part, ⟨1, 0⟩]
  | .any parts => .chain (listHeights parts)
  | .all parts => .chain (listHeights parts)
  | .verbatim _ => ⟨1, 0⟩

/-- The heights of some conditions. -/
def listHeights : List Condition → List Height
  | [] => []
  | c :: rest => conditionHeight c :: listHeights rest

/-- The height of a filter, if there is one. -/
def filterHeights : Option Condition → List Height
  | none => []
  | some c => [conditionHeight c]

/-- The heights of the expressions of a sub-query. -/
def queryHeights : Subquery → List Height
  | .select value _ _ filter => operandHeight value :: filterHeights filter
  | .verbatim _ => []

end

/-- How high an expression may be. -/
def greatestHeight : Nat := 1000

/-- A filter has an expression that is too high. -/
def isTooDeep (filter : Option Condition) : Bool :=
  (filterHeights filter).any fun h => greatestHeight < max h.own h.apart

/-! ## Form -/

/-- What is wrong with the form of rows, the first of which starts at a place, given the width of
the row before; and where it shows. -/
def rowsFault? (start : Nat) (width : Option Nat) : List (List Value) → Option (Nat × Refusal)
  | [] => none
  | row :: rest =>
    let closing := start + 1 + size (valueList .sqlite row)
    if row.isEmpty then some (closing, ⟨.unexpected ")", some closing⟩)
    else if width.any fun n => n != row.length then some (closing + 1, ⟨.unevenRows, none⟩)
    else rowsFault? (closing + 1 + size [.sign ",", .blank]) (some row.length) rest

namespace Statement

/-- What is wrong with the form of a statement, and where it shows. -/
def formFault? (s : Statement) : Option (Nat × Refusal) :=
  let ending := size s.pieces
  let deep (filter : Option Condition) : Option (Nat × Refusal) :=
    if isTooDeep filter then some (ending, ⟨.tooDeep, none⟩) else none
  match s with
  | .insert table rows =>
    if rows.isEmpty then some (ending, ⟨.incompleteInput, none⟩)
    else rowsFault? (size (insertHead table)) none rows
  | .delete _ filter => deep filter
  | .update _ _ _ filter => deep filter
  | .select _ _ filter => deep filter
  | .literals values => if values.isEmpty then some (ending, ⟨.incompleteInput, none⟩) else none
  | _ => none

/-- The units that come before any table is looked at. Of a declaration these are those up to the
name of the table; the others are read as it goes. -/
def leadingUnits (s : Statement) : List Lexeme :=
  match s with
  | .create _ _ => (lexemes s.text).take 3
  | .verbatim _ => []
  | _ => lexemes s.text

/-- The first of these that is no unit. -/
def illegal? (s : Statement) : Option Lexeme :=
  s.leadingUnits.find? fun l => l.kind == .illegal

/-- The question that a statement asks about a setting, if it asks one. -/
def inquiry? (s : Statement) : Option (Except Refusal Inquiry) :=
  match s with
  | .setting _ => some (Inquiry.ofText s.text)
  | _ => none

/-- Checks the form of a statement. -/
def check (s : Statement) : Except Refusal Unit :=
  match s.inquiry? with
  | some inquiry => inquiry.map fun _ => ()
  | none =>
    match s.illegal?, s.formFault? with
    | none, none => .ok ()
    | some l, none => .error l.refusal
    | none, some (_, refusal) => .error refusal
    | some l, some (place, refusal) => .error (if l.start < place then l.refusal else refusal)

end Statement

end PooledSql.Sqlite
