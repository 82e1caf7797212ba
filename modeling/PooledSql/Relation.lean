/-!
# Relations and quantifiers

The six comparisons of two scalars, and how one of them applies across the members of a collection.

Results:
* `holds_negate`: on an order, the negated relation holds exactly when the relation does not.
-/

namespace PooledSql

/-- A comparison of two scalars: `exprn::Relation`. -/
inductive Relation
  | equal
  | notEqual
  | less
  | lessOrEqual
  | greater
  | greaterOrEqual
deriving DecidableEq, Repr

namespace Relation

/-- The relation that holds exactly when this one does not: `exprn::Relation::negate`. -/
def negate : Relation → Relation
  | .equal => .notEqual
  | .notEqual => .equal
  | .less => .greaterOrEqual
  | .lessOrEqual => .greater
  | .greater => .lessOrEqual
  | .greaterOrEqual => .less

/-- The relation holds between operands that stand to each other as `o` says. -/
def holds : Relation → Ordering → Bool
  | .equal, o => o == .eq
  | .notEqual, o => o != .eq
  | .less, o => o == .lt
  | .lessOrEqual, o => o != .gt
  | .greater, o => o == .gt
  | .greaterOrEqual, o => o != .lt

/-- How the relation is written: `sql::buffer::SqlBuffer::write_operator`. -/
def sign : Relation → String
  | .equal => "="
  | .notEqual => "<>"
  | .less => "<"
  | .lessOrEqual => "<="
  | .greater => ">"
  | .greaterOrEqual => ">="

theorem holds_negate (r : Relation) (o : Ordering) : r.negate.holds o = !r.holds o := by
  cases r <;> cases o <;> rfl

end Relation

/-- How a comparison applies across the members of a collection: `exprn::collective::Quantifier`. -/
inductive Quantifier
  /-- It holds for at least one member. -/
  | some
  /-- It holds for every member. -/
  | all
deriving DecidableEq, Repr

end PooledSql
