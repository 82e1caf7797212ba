import PooledSql.Dialect
import PooledSql.Relation
import PooledSql.Table
import PooledSql.Value

/-!
# Predicates

Trees of conditions over the columns of tables. A comparison has two scalars; a collective
comparison has a scalar and a collection, which is a list of values or a sub-query. Besides, a tree
may hold pieces of text that somebody else wrote, of which only the columns they use are known.

The columns that a tree *imports* are those it takes from outside: a sub-query provides the columns
of its own table and imports the others.
-/

namespace PooledSql

mutual

/-- An expression with one value per row: `exprn::mapper::Mapper`, with `ColumnMapper` and
`LiteralMapper`. -/
inductive Scalar
  | column (c : Column)
  | literal (v : Value)
  /-- The value of a sub-query with one row. -/
  | subquery (q : Query)
  /-- Text of another hand, using the given columns. -/
  | verbatim (text : String) (uses : List ColumnId)

/-- A sub-query with one column of values: `exprn::collective::Query`, with `Select`. -/
inductive Query
  | select (source : Table) (value : Scalar) (filter : Option Predicate)
  /-- Text of another hand, in which `{alias}` stands for the name of the values. -/
  | verbatim (text : String) (uses : List ColumnId)

/-- A collection, and how a comparison applies across it: `exprn::collective::Collective`. -/
inductive Collective
  | values (quantifier : Quantifier) (members : List Value)
  | query (quantifier : Quantifier) (members : Query)

/-- A condition on a row: `exprn::Expressionist`, with `exprn::comparison::Comparison` and
`exprn::collective_comparison::CollectiveComparison`. -/
inductive Predicate
  | compare (relation : Relation) (lhs rhs : Scalar)
  | collective (relation : Relation) (lhs : Scalar) (rhs : Collective)
  /-- All of the given conditions, as somebody else puts them together. -/
  | all (parts : List Predicate)
  /-- Text of another hand, using the given columns. -/
  | verbatim (text : String) (uses : List ColumnId)

end

/-- How the comparison applies across the members: `exprn::collective::Collective::quantifier`. -/
def Collective.quantifier : Collective → Quantifier
  | .values quantifier _ => quantifier
  | .query quantifier _ => quantifier

namespace Predicate

/-- `lhs IN (values)`: equal to some of them (`exprn::collective_comparison::in_values`). -/
def inValues (lhs : Scalar) (values : List Value) : Predicate :=
  .collective .equal lhs (.values .some values)

/-- `lhs NOT IN (values)`: different from all of them
(`exprn::collective_comparison::not_in_values`). -/
def notInValues (lhs : Scalar) (values : List Value) : Predicate :=
  .collective .notEqual lhs (.values .all values)

/-- `lhs IN (query)`: equal to some value of the query
(`exprn::collective_comparison::in_query`). -/
def inQuery (lhs : Scalar) (query : Query) : Predicate :=
  .collective .equal lhs (.query .some query)

end Predicate

mutual

/-- The columns that a scalar takes from outside: `exprn::mapper::Mapper::imports`. -/
def Scalar.imports : Scalar → ColumnSet
  | .column c => [c.id]
  | .literal _ => []
  | .subquery q => q.imports
  | .verbatim _ uses => ColumnSet.ofList uses

/-- The columns that a sub-query takes from outside: those of its parts that its own table does not
provide (`exprn::collective::Query::imports`). -/
def Query.imports : Query → ColumnSet
  | .select source value filter =>
    (ColumnSet.union value.imports (Predicate.optionImports filter)).without source.exports
  | .verbatim _ uses => ColumnSet.ofList uses

/-- The columns that a collection takes from outside: `exprn::collective::Collective::imports`. -/
def Collective.imports : Collective → ColumnSet
  | .values _ _ => []
  | .query _ members => members.imports

/-- The columns that a condition takes from outside: `exprn::Expressionist::imports`. -/
def Predicate.imports : Predicate → ColumnSet
  | .compare _ lhs rhs => ColumnSet.union lhs.imports rhs.imports
  | .collective _ lhs rhs => ColumnSet.union lhs.imports rhs.imports
  | .all parts => Predicate.listImports parts
  | .verbatim _ uses => ColumnSet.ofList uses

/-- The columns that a condition takes from outside, if there is one. -/
def Predicate.optionImports : Option Predicate → ColumnSet
  | none => []
  | some p => p.imports

/-- The columns that any of the conditions takes from outside. -/
def Predicate.listImports : List Predicate → ColumnSet
  | [] => []
  | p :: rest => ColumnSet.union p.imports (Predicate.listImports rest)

end

namespace Query

/-- The name of the table that a query selects from, where it is known. -/
def sourceAlias : Query → Option String
  | .select source _ _ => some source.label
  | .verbatim _ _ => none

end Query

end PooledSql
