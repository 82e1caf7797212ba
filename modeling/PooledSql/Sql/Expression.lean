import PooledSql.Predicate
import PooledSql.Sql.Token

/-!
# Written SQL

What is written, before it is spelled: operands, conditions and sub-queries as a dialect of SQL has
them. A reference to a column keeps the column's identity, although only its two names are spelled.
-/

namespace PooledSql.Sql

/-- The name that the values of a collection's sub-query go by: `sql::buffer::VALUE_ALIAS`. -/
def valueAlias : String := "value"

/-- The name that the value of a scalar sub-query goes by. -/
def scalarAlias : String := "scalar"

mutual

/-- An operand. -/
inductive Operand
  | column (c : Column)
  /-- The values of the sub-query that goes by `label` in the surrounding `FROM`. -/
  | member (label : String)
  | literal (v : Value)
  | subquery (q : Subquery)
  | verbatim (text : String)

/-- A condition. -/
inductive Condition
  | compare (relation : Relation) (lhs rhs : Operand)
  /-- `lhs [NOT] IN (members)`. -/
  | inValues (negated : Bool) (lhs : Operand) (members : List Value)
  /-- `lhs [NOT] IN (members)`. -/
  | inQuery (negated : Bool) (lhs : Operand) (members : Subquery)
  /-- `lhs relation ANY|ALL (members)`. -/
  | quantified (relation : Relation) (quantifier : Quantifier) (lhs : Operand) (members : Subquery)
  /-- `[NOT] EXISTS (SELECT 1 FROM (members) AS alias WHERE filter)`. -/
  | existing (negated : Bool) (members : Subquery) (label : String) (filter : Condition)
  /-- `(part) IS NOT TRUE`. -/
  | notTrue (part : Condition)
  /-- `(part OR ..)`. -/
  | any (parts : List Condition)
  /-- `(part AND ..)`. -/
  | all (parts : List Condition)
  | verbatim (text : String)

/-- A sub-query with one column of values. -/
inductive Subquery
  /-- `SELECT value AS alias FROM source [WHERE filter]`. -/
  | select (value : Operand) (label : String) (source : Table) (filter : Option Condition)
  | verbatim (text : String)

end

/-! ## Spelling -/

/-- A reference by two names: `sql::buffer::SqlBuffer::write_column`. -/
def reference (table column : String) : List Piece := [.name table, .sign ".", .name column]

/-- A table in a `FROM`, with the name that it goes by where that is another one:
`sql::buffer::SqlBuffer::write_table`. -/
def sourcePieces (t : Table) : List Piece :=
  if t.isAliased then [.name t.name, .blank, .word "AS", .blank, .name t.label] else [.name t.name]

/-- Some texts with a separator between them. -/
def separated {α : Type} (separator : List α) : List (List α) → List α
  | [] => []
  | [x] => x
  | x :: rest => x ++ separator ++ separated separator rest

/-- Values as a list of literals: `sql::buffer::SqlBuffer::write_value_list`. -/
def valueList (d : Dialect) (values : List Value) : List Piece :=
  separated [.sign ",", .blank] (values.map (Piece.literal d))

/-- Words with a blank after each. -/
def words (s : List String) : List Piece := s.flatMap fun w => [.word w, .blank]

/-- A part in parentheses. -/
def parenthesized (x : List Piece) : List Piece := Piece.sign "(" :: (x ++ [.sign ")"])

/-- The words in front of a condition that is maybe negated. -/
def maybeNot (negated : Bool) (w : String) : List Piece :=
  words (if negated then ["NOT", w] else [w])

/-- How a relation stands between its operands: `sql::buffer::SqlBuffer::write_operator`. -/
def relationPieces (r : Relation) : List Piece := [.blank, .sign r.sign, .blank]

/-- What is between the operand and the members of a list or a sub-query. -/
def membershipPieces (negated : Bool) : List Piece :=
  .blank :: maybeNot negated "IN" ++ [.sign "("]

/-- What is in front of the sub-query of a condition on existence. -/
def existencePieces (negated : Bool) : List Piece :=
  maybeNot negated "EXISTS" ++ [.sign "("] ++ words ["SELECT"] ++ Piece.number ['1'] ++ .blank ::
    words ["FROM"] ++ [.sign "("]

/-- What is between the sub-query and the filter of a condition on existence. -/
def labelPieces (label : String) : List Piece :=
  .sign ")" :: .blank :: words ["AS"] ++ .name label :: .blank :: words ["WHERE"]

/-- What is between the value and the filter of a sub-query. -/
def fromPieces (label : String) (source : Table) : List Piece :=
  .blank :: words ["AS"] ++ .name label :: .blank :: words ["FROM"] ++ sourcePieces source

/-- A word with a blank on either side. -/
def connective (w : String) : List Piece := .blank :: words [w]

mutual

/-- The pieces of an operand. -/
def Operand.pieces (d : Dialect) : Operand → List Piece
  | .column c => reference c.table c.name
  | .member label => reference label valueAlias
  | .literal v => Piece.literal d v
  | .subquery q => parenthesized (q.pieces d)
  | .verbatim text => [.verbatim text]

/-- The pieces of a condition. -/
def Condition.pieces (d : Dialect) : Condition → List Piece
  | .compare r lhs rhs => lhs.pieces d ++ relationPieces r ++ rhs.pieces d
  | .inValues negated lhs members =>
    lhs.pieces d ++ membershipPieces negated ++ valueList d members ++ [.sign ")"]
  | .inQuery negated lhs members =>
    lhs.pieces d ++ membershipPieces negated ++ members.pieces d ++ [.sign ")"]
  | .quantified r quantifier lhs members =>
    let w := match quantifier with | .some => "ANY" | .all => "ALL"
    lhs.pieces d ++ relationPieces r ++ words [w] ++ parenthesized (members.pieces d)
  | .existing negated members label filter =>
    existencePieces negated ++ members.pieces d ++ labelPieces label ++ filter.pieces d ++
      [.sign ")"]
  | .notTrue part =>
    parenthesized (part.pieces d) ++ .blank :: words ["IS", "NOT"] ++ [.word "TRUE"]
  | .any parts =>
    parenthesized (separated (connective "OR") (Condition.listPieces d parts))
  | .all parts =>
    parenthesized (separated (connective "AND") (Condition.listPieces d parts))
  | .verbatim text => [.verbatim text]

/-- The pieces of each of some conditions. -/
def Condition.listPieces (d : Dialect) : List Condition → List (List Piece)
  | [] => []
  | c :: rest => c.pieces d :: Condition.listPieces d rest

/-- The pieces of a `WHERE`, if there is a condition. -/
def Condition.wherePieces (d : Dialect) : Option Condition → List Piece
  | none => []
  | some c => connective "WHERE" ++ c.pieces d

/-- The pieces of a sub-query. -/
def Subquery.pieces (d : Dialect) : Subquery → List Piece
  | .select value label source filter =>
    words ["SELECT"] ++ value.pieces d ++ fromPieces label source ++
      Condition.wherePieces d filter
  | .verbatim text => [.verbatim text]

end

end PooledSql.Sql
