import PooledSql.Sql.Expression

/-!
# Writing predicates in SQL

How each dialect expresses a predicate. A comparison with some or all members of a list becomes
`IN`, `NOT IN`, or a chain of `OR` or `AND`; over nothing it is a constant. A comparison with a
sub-query becomes `IN`, `NOT IN`, `ANY` or `ALL`; where the dialect lacks the last two it becomes a
condition on existence, in which a comparison that is unknown counts as one that does not hold.

Such a condition names its sub-query. The names are `q1`, `q2`, …, in the order in which they are
written, over everything that goes into one buffer.
-/

namespace PooledSql.Sql

/-- Writing that may take names; the state is how many are taken. -/
abbrev Naming := StateM Nat

/-- Takes the next name: `sql::buffer::SqlBuffer::fresh_alias`. -/
def freshAlias : Naming String := do
  let taken ← get
  set (taken + 1)
  pure ("q" ++ toString (taken + 1))

/-- The comparisons that `IN` (not negated) and `NOT IN` (negated) express. -/
def membership? : Relation → Quantifier → Option Bool
  | .equal, .some => some false
  | .notEqual, .all => some true
  | _, _ => none

/-- What a comparison says over no members: some of them is false and all of them is true, written
as `1 = 0` and `1 = 1`. -/
def vacuous (quantifier : Quantifier) : Condition :=
  .compare .equal (.literal (.integer 1))
    (.literal (.integer (match quantifier with | .some => 0 | .all => 1)))

/-- The comparisons with each member, as one condition. -/
def chain : Quantifier → List Condition → Condition
  | .some, parts => .any parts
  | .all, parts => .all parts

/-- Existence of a member for which the comparison holds, or of none for which it does not. -/
def existence (members : Subquery) (label : String) (comparison : Condition) :
    Quantifier → Condition
  | .some => .existing false members label comparison
  | .all => .existing true members label (.notTrue comparison)

/-- A comparison with the members of a list, given how the left operand is written each time:
`sql::buffer::SqlBuffer::write_literal_collective`. -/
def encodeValues (relation : Relation) (quantifier : Quantifier) (lhs : Naming Operand)
    (members : List Value) : Naming Condition :=
  if members.isEmpty then pure (vacuous quantifier)
  else
    match membership? relation quantifier with
    | some negated => do return .inValues negated (← lhs) members
    | none => do
      let parts ← members.mapM fun v => do return .compare relation (← lhs) (.literal v)
      return chain quantifier parts

/-- A comparison with the members of a sub-query, given how each part is written:
`sql::buffer::SqlBuffer::write_subquery_collective`. -/
def encodeQuery (d : Dialect) (relation : Relation) (quantifier : Quantifier)
    (lhs : Naming Operand) (members : Naming Subquery) : Naming Condition :=
  match membership? relation quantifier with
  | some negated => do
    let lhs ← lhs
    return .inQuery negated lhs (← members)
  | none =>
    if d.hasQuantifiedSubquery then do
      let lhs ← lhs
      return .quantified relation quantifier lhs (← members)
    else do
      let label ← freshAlias
      let members ← members
      return existence members label (.compare relation (← lhs) (.member label)) quantifier

mutual

/-- How a scalar is written: `exprn::mapper::Mapper::write_mapper`. -/
def Scalar.encode (d : Dialect) : Scalar → Naming Operand
  | .column c => pure (.column c)
  | .literal v => pure (.literal v)
  | .subquery q => do return .subquery (← Query.encode d scalarAlias q)
  | .verbatim text _ => pure (.verbatim text)

/-- How a sub-query whose values go by `label` is written: `exprn::collective::Query::write_query`,
and `sql::buffer::SqlBuffer::write_select`. -/
def Query.encode (d : Dialect) (label : String) : Query → Naming Subquery
  | .select source value filter => do
    let value ← Scalar.encode d value
    return .select value label source (← Predicate.encodeOption d filter)
  | .verbatim text _ => pure (.verbatim (text.replace "\x7balias\x7d" label))

/-- How a comparison of a left operand with a collection is written:
`sql::buffer::SqlBuffer::write_collective_comparison`. -/
def Collective.encode (d : Dialect) (relation : Relation) (lhs : Naming Operand) :
    Collective → Naming Condition
  | .values quantifier members => encodeValues relation quantifier lhs members
  | .query quantifier members =>
    encodeQuery d relation quantifier lhs (Query.encode d valueAlias members)

/-- How a predicate is written: `exprn::Expressionist::write_expression`, and
`sql::buffer::SqlBuffer::write_comparison`. -/
def Predicate.encode (d : Dialect) : Predicate → Naming Condition
  | .compare relation lhs rhs => do
    let lhs ← Scalar.encode d lhs
    return .compare relation lhs (← Scalar.encode d rhs)
  | .collective relation lhs rhs => Collective.encode d relation (Scalar.encode d lhs) rhs
  | .all parts => do return .all (← Predicate.encodeList d parts)
  | .verbatim text _ => pure (.verbatim text)

/-- How a filter is written, if there is one. -/
def Predicate.encodeOption (d : Dialect) : Option Predicate → Naming (Option Condition)
  | none => pure none
  | some p => do return some (← Predicate.encode d p)

/-- How each of some predicates is written. -/
def Predicate.encodeList (d : Dialect) : List Predicate → Naming (List Condition)
  | [] => pure []
  | p :: rest => do
    let c ← Predicate.encode d p
    return c :: (← Predicate.encodeList d rest)

end

/-- A predicate as a condition of a dialect, with names from `q1` on. -/
def condition (d : Dialect) (p : Predicate) : Condition := (Predicate.encode d p |>.run 0).1

/-- The text of a predicate in a dialect: `sql::buffer::to_sql`. -/
def toSql (d : Dialect) (p : Predicate) : String :=
  String.ofList (spell ((condition d p).pieces d))

end PooledSql.Sql
