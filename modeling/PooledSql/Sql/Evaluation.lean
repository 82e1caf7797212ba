import PooledSql.Sql.Expression
import PooledSql.Sql.Truth

/-!
# What written SQL means

The value of an operand, the truth of a condition and the values of a sub-query, given a reading:
how references and tables are understood where the text stands, what literals stand for, and how
values compare. What is known at a place (a row for each surrounding table, say) is left open,
and so is what a value is, so that it may carry along what its comparisons depend on.

Text of another hand is not understood: as an operand it has no value, as a condition it is unknown,
and as a sub-query it has no rows.

Results:
* `listTruth_eq_map`: the truth of some conditions is that of each.
-/

namespace PooledSql.Sql

/-- How SQL is read where `ε` is known and values are of the type `ν`. -/
structure Reading (ε ν : Type) where
  /-- The value of a column. -/
  column : ε → Column → ν
  /-- The value of a sub-query that goes by a name. -/
  member : ε → String → ν
  /-- What is known in the rows of a table, one after the other, as a sub-query of a value and a
  filter goes through them; rows that do not pass the filter may be left out. -/
  rows : ε → Operand → Table → Option Condition → List ε
  /-- What is known once a sub-query's value has a name. -/
  bind : ε → String → ν → ε
  /-- What a literal stands for. -/
  literal : Value → ν
  /-- The value of a sub-query that has some values and stands as an operand. -/
  single : List ν → ν
  /-- A comparison of two values; unknown if either is absent. -/
  compare : Relation → ν → ν → Truth

namespace Reading

variable {ε ν : Type} (R : Reading ε ν)

/-- A comparison across members. -/
def across (relation : Relation) (quantifier : Quantifier) (a : ν) (members : List ν) : Truth :=
  .across quantifier (members.map (R.compare relation a))

/-- Equal to some of the members. -/
def isIn (a : ν) (members : List ν) : Truth := R.across .equal .some a members

end Reading

/-- The truth of a condition that may be denied. -/
def Truth.maybeNot (negated : Bool) (t : Truth) : Truth := if negated then t.neg else t

mutual

/-- The value of an operand. -/
def Operand.value {ε ν : Type} (R : Reading ε ν) (e : ε) : Operand → ν
  | .column c => R.column e c
  | .member label => R.member e label
  | .literal v => R.literal v
  | .subquery q => R.single (q.values R e)
  | .verbatim _ => R.single []

/-- The truth of a condition. -/
def Condition.truth {ε ν : Type} (R : Reading ε ν) (e : ε) : Condition → Truth
  | .compare relation lhs rhs => R.compare relation (lhs.value R e) (rhs.value R e)
  | .inValues negated lhs members =>
    .maybeNot negated (R.isIn (lhs.value R e) (members.map R.literal))
  | .inQuery negated lhs members =>
    .maybeNot negated (R.isIn (lhs.value R e) (members.values R e))
  | .quantified relation quantifier lhs members =>
    R.across relation quantifier (lhs.value R e) (members.values R e)
  | .existing negated members label filter =>
    .maybeNot negated
      (.ofBool ((members.values R e).any fun v => (filter.truth R (R.bind e label v)).isYes))
  | .notTrue part => .ofBool (!(part.truth R e).isYes)
  | .any parts => .any (Condition.listTruth R e parts)
  | .all parts => .all (Condition.listTruth R e parts)
  | .verbatim _ => .unknown

/-- The truth of each of some conditions. -/
def Condition.listTruth {ε ν : Type} (R : Reading ε ν) (e : ε) : List Condition → List Truth
  | [] => []
  | c :: rest => c.truth R e :: Condition.listTruth R e rest

/-- A row passes the filter, if there is one. -/
def Condition.admits {ε ν : Type} (R : Reading ε ν) (e : ε) : Option Condition → Bool
  | none => true
  | some c => (c.truth R e).isYes

/-- The values of a sub-query: one for each row of its table that passes the filter. -/
def Subquery.values {ε ν : Type} (R : Reading ε ν) (e : ε) : Subquery → List ν
  | .select value _ source filter =>
    ((R.rows e value source filter).filter fun row => Condition.admits R row filter).map fun row =>
      value.value R row
  | .verbatim _ => []

end

theorem listTruth_eq_map {ε ν : Type} (R : Reading ε ν) (e : ε) (parts : List Condition) :
    Condition.listTruth R e parts = parts.map fun c => c.truth R e := by
  induction parts with
  | nil => simp [Condition.listTruth]
  | cons c r ih => simp [Condition.listTruth, ih]

end PooledSql.Sql
