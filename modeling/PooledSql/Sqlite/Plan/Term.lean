import PooledSql.Sqlite.Scope

/-!
# Terms of filters

What can be told of a filter before there are any rows: it is a conjunction of terms, and a term may
keep a column of the table that is looked through, or the number of its row, within a bound that
does not depend on the row. An index leads to the rows within the bound if it compares as the term
does.

A term that is a disjunction has such a bound in each of its alternatives, or none at all.
-/

namespace PooledSql.Sqlite.Plan

open Sql (Operand Condition Subquery)

/-! ## Operands beforehand -/

/-- A place in the rows of the table that is looked through. -/
inductive Spot
  | column (place : Nat)
  | number
deriving DecidableEq, Repr

/-- What is known of a value beforehand. -/
structure Trait where
  /-- Where it comes from, if that is the table that is looked through. -/
  spot : Option Spot := none
  affinity : Option Affinity := none
  collation : Option Collation := none
deriving DecidableEq, Repr

/-- An occurrence of a table, with what is known of its values. -/
def headingTraits (t : StoredTable) (names : List String) (isOwn : Bool) : Frame Trait :=
  let trait (spot : Spot) (affinity : Affinity) (collation : Option Collation) : Trait :=
    ⟨if isOwn then some spot else none, some affinity, collation⟩
  let spot (i : Nat) : Spot := if t.key = some i then .number else .column i
  { names
    fields := t.columns.mapIdx fun i c => (c.name, trait (spot i) c.affinity (some c.collation))
    number := t.ifNumbered (trait .number .integer none) }

/-- An occurrence of another table. -/
def otherTraits (s : Store) (source : Table) : Frame Trait :=
  match s.find source.name with
  | .ok t => headingTraits t (occurrenceNames source) false
  | .error _ => ⟨occurrenceNames source, [], none⟩

/-- What is known beforehand of a value that is given. -/
def Trait.ofCell (c : Cell) : Trait := ⟨none, c.affinity, c.collation⟩

mutual

/-- What is known of an operand. -/
def operandTrait (s : Store) (scope : Scope Trait) : Operand → Trait
  | .column c => (scope.find? c.table c.name).getD {}
  | .member label => (scope.find? label Sql.valueAlias).getD {}
  | .subquery q => { affinity := queryAffinity s scope q }
  | .literal _ => {}
  | .verbatim _ => {}

/-- The affinity of the values of a sub-query. -/
def queryAffinity (s : Store) (scope : Scope Trait) : Subquery → Option Affinity
  | .select value _ source _ => (operandTrait s (otherTraits s source :: scope) value).affinity
  | .verbatim _ => none

end

mutual

/-- The places that an operand takes values from. -/
def operandSpots (s : Store) (scope : Scope Trait) : Operand → List Spot
  | .column c => ((scope.find? c.table c.name).bind Trait.spot).toList
  | .member label => ((scope.find? label Sql.valueAlias).bind Trait.spot).toList
  | .subquery q => querySpots s scope q
  | .literal _ => []
  | .verbatim _ => []

/-- The places that a condition takes values from. -/
def conditionSpots (s : Store) (scope : Scope Trait) : Condition → List Spot
  | .compare _ lhs rhs => operandSpots s scope lhs ++ operandSpots s scope rhs
  | .inValues _ lhs _ => operandSpots s scope lhs
  | .inQuery _ lhs members => operandSpots s scope lhs ++ querySpots s scope members
  | .quantified _ _ lhs members => operandSpots s scope lhs ++ querySpots s scope members
  | .existing _ members label filter =>
    querySpots s scope members ++ conditionSpots s (memberFrame label {} :: scope) filter
  | .notTrue part => conditionSpots s scope part
  | .any parts => listSpots s scope parts
  | .all parts => listSpots s scope parts
  | .verbatim _ => []

/-- The places that some conditions take values from. -/
def listSpots (s : Store) (scope : Scope Trait) : List Condition → List Spot
  | [] => []
  | c :: rest => conditionSpots s scope c ++ listSpots s scope rest

/-- The places that a filter takes values from. -/
def filterSpots (s : Store) (scope : Scope Trait) : Option Condition → List Spot
  | none => []
  | some c => conditionSpots s scope c

/-- The places that a sub-query takes values from. -/
def querySpots (s : Store) (scope : Scope Trait) : Subquery → List Spot
  | .select value _ source filter =>
    let scope := otherTraits s source :: scope
    operandSpots s scope value ++ filterSpots s scope filter
  | .verbatim _ => []

end

/-! ## Bounds -/

/-- How a term bounds a value. -/
inductive Bound
  | equal
  /-- It is one of some values. -/
  | among (count : Estimate)
  | lower
  | upper
deriving DecidableEq, Repr

/-- How a relation bounds its left operand. -/
def Bound.ofRelation? : Relation → Option Bound
  | .equal => some .equal
  | .notEqual => none
  | .less | .lessOrEqual => some .upper
  | .greater | .greaterOrEqual => some .lower

/-- How a relation bounds its right operand. -/
def Bound.opposite : Bound → Bound
  | .lower => .upper
  | .upper => .lower
  | b => b

/-- A bound of what is at a place, and how values are compared with it. -/
structure Constraint where
  spot : Spot
  bound : Bound
  affinity : Option Affinity
  collation : Collation
deriving DecidableEq, Repr

/-- The affinity of a comparison: where both sides have one, numbers prevail. -/
def commonAffinity : Option Affinity → Option Affinity → Option Affinity
  | some a, some b => if a.isNumeric || b.isNumeric then some .numeric else none
  | a, b => a <|> b

/-- A column in the order of an index. -/
structure KeyColumn where
  spot : Spot
  affinity : Affinity
  collation : Collation
deriving DecidableEq, Repr

/-- The values of a column are in an order in which the bound is an end, if it is one of the same
values. -/
def Constraint.suits (c : Constraint) (k : KeyColumn) : Bool :=
  let isAlike : Bool :=
    match c.affinity with
    | none | some .blob => true
    | some .text => k.affinity == .text
    | some _ => k.affinity.isNumeric
  k.spot == .number || isAlike && c.collation == k.collation

/-- A comparison with a literal that is one of several alternatives. -/
structure Alternative where
  constraint : Constraint
  relation : Relation
  literal : Value

/-! ## Terms -/

/-- A term of a filter. -/
structure Term where
  /-- The places that it takes values from. -/
  spots : List Spot
  constraint : Option Constraint := none
  /-- Two places whose values it says to be the same. -/
  equates : Option (Spot × Spot) := none
  /-- What it leaves to choose from, if it is a disjunction. -/
  alternatives : List Alternative := []
  /-- How many rows it is guessed to keep out. -/
  guess : Nat := 0
  hasQuery : Bool := false
  /-- It follows from another term. -/
  isDerived : Bool := false

/-- A value that is guessed to be common. -/
def isCommon : Operand → Bool
  | .literal (.integer n) => -1 ≤ n.toInt && n.toInt ≤ 1
  | _ => false

/-- An operand is a sub-query. -/
def isQuery : Operand → Bool
  | .subquery _ => true
  | _ => false

/-- What the terms of a filter are read with: the tables, what is known of the values that
references mean, and the places whose values other terms give. -/
structure Setting where
  store : Store
  scope : Scope Trait
  given : List Spot := []

namespace Setting

/-- What is known of an operand. -/
def trait (e : Setting) (x : Operand) : Trait := operandTrait e.store e.scope x

/-- What is at a place is as it was stored, so that it can be read in the place of an equal value
only where it is compared. -/
def isRaw (e : Setting) (spot : Spot) : Bool :=
  e.scope.any fun f => f.fields.any fun p =>
    p.2.spot == some spot && p.2.affinity == some .blob

/-- The places whose values an operand needs. -/
def needs (e : Setting) (x : Operand) : List Spot :=
  (operandSpots e.store e.scope x).filter fun spot => !(e.given.contains spot && !e.isRaw spot)

/-- The places whose values an operand needs that is compared with another one, which stands before
it if there is one of its affinity. -/
def comparedNeeds (e : Setting) (x : Operand) (before : Option Affinity) : List Spot :=
  match (e.trait x).spot with
  | some spot => if e.given.contains spot && before != some .text then [] else e.needs x
  | none => e.needs x

/-- The bound that a comparison is. -/
def comparisonConstraint? (e : Setting) (relation : Relation) (lhs rhs : Operand) :
    Option Constraint := do
  let left := e.trait lhs
  let right := e.trait rhs
  let affinity := commonAffinity left.affinity right.affinity
  let collation := (left.collation <|> right.collation).getD .binary
  let bound ← Bound.ofRelation? relation
  let isRightGiven := (e.comparedNeeds rhs left.affinity).isEmpty
  match left.spot, right.spot with
  | some spot, other =>
    if isRightGiven then some ⟨spot, bound, affinity, collation⟩
    else if (e.comparedNeeds lhs none).isEmpty then
      other.map fun spot => ⟨spot, bound.opposite, affinity, collation⟩
    else none
  | none, some spot =>
    if !isRightGiven && (e.comparedNeeds lhs none).isEmpty then
      some ⟨spot, bound.opposite, affinity, collation⟩
    else none
  | none, none => none

/-- The places whose values a comparison says to be the same, so that one may be taken for the
other. -/
def equates? (e : Setting) (relation : Relation) (lhs rhs : Operand) : Option (Spot × Spot) := do
  let left := e.trait lhs
  let right := e.trait rhs
  let a ← left.affinity
  let b ← right.affinity
  let isAlike := a = b ∨ a.isNumeric ∧ b.isNumeric
  let collation := (left.collation <|> right.collation).getD .binary
  let isPlain := collation = .binary ∨ left.collation.getD .binary = right.collation.getD .binary
  if relation = .equal ∧ isAlike ∧ isPlain then return (← left.spot, ← right.spot) else none

/-- A comparison as a term. -/
def comparison (e : Setting) (relation : Relation) (lhs rhs : Operand) : Term :=
  let constraint := e.comparisonConstraint? relation lhs rhs
  { spots := e.comparedNeeds lhs none ++ e.comparedNeeds rhs (e.trait lhs).affinity
    constraint
    equates := e.equates? relation lhs rhs
    guess :=
      if relation != .equal || constraint.isNone then 0
      else if isCommon lhs || isCommon rhs then 10
      else 20
    hasQuery := isQuery lhs || isQuery rhs }

/-- What a bound by some members is, if the values at a place are looked for among them. -/
def membership? (e : Setting) (lhs : Operand) (count : Estimate) (members : Option Affinity) :
    Option Constraint :=
  let left := e.trait lhs
  left.spot.map fun spot =>
    ⟨spot, .among count, commonAffinity left.affinity members, left.collation.getD .binary⟩

/-- An alternative, if it is a comparison of what is at a place with a literal. -/
def alternative? (e : Setting) : Condition → Option Alternative
  | .compare relation lhs (.literal v) =>
    (e.comparisonConstraint? relation lhs (.literal v)).map fun c => ⟨c, relation, v⟩
  | _ => none

/-- A condition as a term. -/
def term (e : Setting) (condition : Condition) : Term :=
  let plain : Term := { spots := conditionSpots e.store e.scope condition }
  match condition with
  | .compare relation lhs rhs => e.comparison relation lhs rhs
  | .inValues false lhs [v] => e.comparison .equal lhs (.literal v)
  | .inValues false lhs members =>
    { plain with constraint := e.membership? lhs (Estimate.ofCount members.length) none }
  | .inQuery false lhs members =>
    let isFixed := (e.needs (.subquery members)).isEmpty
    let affinity := queryAffinity e.store e.scope members
    { plain with
      constraint := if isFixed then e.membership? lhs Estimate.members affinity else none
      hasQuery := true }
  | .any [.compare relation lhs rhs] => e.comparison relation lhs rhs
  | .any parts => { plain with alternatives := (parts.mapM e.alternative?).getD [] }
  | _ => plain

/-- The place whose value a condition gives, as it says that it is that of a literal, to the byte if
it is a text. -/
def given? (e : Setting) (condition : Condition) : Option Spot :=
  let place (x : Operand) : Option Spot :=
    let t := e.trait x
    if t.collation.getD .binary = .binary then t.spot else none
  match condition with
  | .compare .equal lhs (.literal _) => place lhs
  | .compare .equal (.literal _) rhs => place rhs
  | .inValues false lhs [_] => place lhs
  | .any [.compare .equal lhs (.literal _)] => place lhs
  | _ => none

/-- The conditions of a conjunction as terms. What one of them gives, the others need not look up.
-/
def termsOf (e : Setting) (conditions : List Condition) : List Term :=
  let given := if conditions.length < 2 then [] else conditions.filterMap e.given?
  conditions.map fun c =>
    if (e.given? c).isSome then e.term c else Setting.term { e with given } c

end Setting

mutual

/-- The terms of a condition. -/
def conjuncts : Condition → List Condition
  | .all parts => conjunctsOf parts
  | c => [c]

/-- The terms of some conditions that all have to hold. -/
def conjunctsOf : List Condition → List Condition
  | [] => []
  | c :: rest => conjuncts c ++ conjunctsOf rest

end

/-- Two alternatives that are the same are a term of their own. -/
def doubled? (t : Term) : Option Term :=
  match t.alternatives with
  | [a, b] =>
    let text (v : Value) : List Char := Sql.spell (Sql.Piece.literal .sqlite v)
    if a.relation = b.relation ∧ text a.literal = text b.literal then
      some { spots := t.spots, constraint := some a.constraint, isDerived := true }
    else none
  | _ => none

/-- Terms, followed by those that follow from them. -/
def withDerived (terms : List Term) : List Term := terms ++ terms.filterMap doubled?

/-- The terms that have to do with the table, followed by those that follow from them. -/
def concerning (terms : List Term) : List Term :=
  withDerived (terms.filter fun t => !t.spots.isEmpty)

/-- The terms of the filter of a sub-query. -/
def terms (e : Setting) (filter : Option Condition) : List Term :=
  concerning (e.termsOf (filter.elim [] conjuncts))

/-- The terms of the filter of a change, each of which stands for itself. -/
def changeTerms (e : Setting) (filter : Option Condition) : List Term :=
  concerning ((filter.elim [] conjuncts).map e.term)

end PooledSql.Sqlite.Plan
