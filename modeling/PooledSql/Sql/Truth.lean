import PooledSql.Relation

/-!
# Truth in SQL

Conditions have three truth values: a comparison with an absent value is neither true nor false but
unknown, and the connectives carry that on. A filter keeps the rows for which its condition is true.

Results:
* `neg_and`, `neg_or`: negation exchanges conjunction and disjunction.
* `isYes_all`, `isYes_any`: to a filter, the connectives are those of two-valued logic.
-/

namespace PooledSql.Sql

/-- A truth value. -/
inductive Truth
  | no
  | unknown
  | yes
deriving DecidableEq, Repr

namespace Truth

/-- The truth value of something that is known. -/
def ofBool (b : Bool) : Truth := if b then .yes else .no

/-- A comparison of values of which one is absent, or that stand to each other as given. -/
def ofOrder (relation : Relation) : Option Ordering → Truth
  | some o => ofBool (relation.holds o)
  | none => .unknown

/-- Known to hold. -/
def isYes : Truth → Bool
  | .yes => true
  | _ => false

/-- What it is taken for, where one that is unknown counts as given. -/
def counted (unknown : Bool) : Truth → Bool
  | .yes => true
  | .no => false
  | .unknown => unknown

/-- Unknown stays unknown. -/
def neg : Truth → Truth
  | .no => .yes
  | .unknown => .unknown
  | .yes => .no

/-- The lesser of the two. -/
def and : Truth → Truth → Truth
  | .no, _ => .no
  | _, .no => .no
  | .unknown, _ => .unknown
  | _, .unknown => .unknown
  | .yes, .yes => .yes

/-- The greater of the two. -/
def or : Truth → Truth → Truth
  | .yes, _ => .yes
  | _, .yes => .yes
  | .unknown, _ => .unknown
  | _, .unknown => .unknown
  | .no, .no => .no

/-- All of the conditions; over none of them, true. -/
def all (parts : List Truth) : Truth := parts.foldr and .yes

/-- Any of the conditions; over none of them, false. -/
def any (parts : List Truth) : Truth := parts.foldr or .no

/-- Across members: for some of them, or for all. -/
def across : Quantifier → List Truth → Truth
  | .some => any
  | .all => all

theorem neg_and (a b : Truth) : (a.and b).neg = a.neg.or b.neg := by
  cases a <;> cases b <;> rfl

theorem neg_or (a b : Truth) : (a.or b).neg = a.neg.and b.neg := by
  cases a <;> cases b <;> rfl

theorem neg_ofBool (b : Bool) : (ofBool b).neg = ofBool (!b) := by
  cases b <;> rfl

/-- The law of De Morgan for a disjunction of any length. -/
theorem neg_any (parts : List Truth) : (any parts).neg = all (parts.map neg) := by
  induction parts with
  | nil => rfl
  | cons a r ih => simpa [any, all, neg_or] using congrArg a.neg.and ih

/-- The law of De Morgan for a conjunction of any length. -/
theorem neg_all (parts : List Truth) : (all parts).neg = any (parts.map neg) := by
  induction parts with
  | nil => rfl
  | cons a r ih => simpa [any, all, neg_and] using congrArg a.neg.or ih

/-! ## What a filter sees -/

@[simp]
theorem isYes_ofBool (b : Bool) : (ofBool b).isYes = b := by
  cases b <;> rfl

@[simp]
theorem isYes_neg_ofBool (b : Bool) : (ofBool b).neg.isYes = !b := by
  cases b <;> rfl

theorem isYes_iff {a : Truth} : a.isYes = true ↔ a = .yes := by
  cases a <;> simp [isYes]

@[simp]
theorem isYes_and (a b : Truth) : (a.and b).isYes = (a.isYes && b.isYes) := by
  cases a <;> cases b <;> rfl

@[simp]
theorem isYes_or (a b : Truth) : (a.or b).isYes = (a.isYes || b.isYes) := by
  cases a <;> cases b <;> rfl

theorem isYes_all (parts : List Truth) : (all parts).isYes = parts.all isYes := by
  induction parts with
  | nil => rfl
  | cons a r ih =>
    rw [all, List.foldr_cons, isYes_and, List.all_cons]
    exact congrArg (a.isYes && ·) ih

theorem isYes_any (parts : List Truth) : (any parts).isYes = parts.any isYes := by
  induction parts with
  | nil => rfl
  | cons a r ih =>
    rw [any, List.foldr_cons, isYes_or, List.any_cons]
    exact congrArg (a.isYes || ·) ih

end Truth

end PooledSql.Sql
