import PooledSql.Sqlite.Formula.Basic
import PooledSql.Sqlite.Function.Catalog

/-!
# What formulas mean

A formula has a value, but only where it is asked for it: a value that is not needed is not
calculated, and so cannot fail. Where a formula is a condition, it is asked whether it holds, which
may need less of it than its value does. Beside this, a formula has an affinity and a collation for
comparisons, which are known beforehand. A collation that was asked for goes before those that
columns have.

Several values in parentheses have no value of their own; they can only be compared with others.
-/

namespace PooledSql.Sqlite

open Sql (Truth)

/-! ## Values at hand -/

/-- A value that was calculated, with what goes along with it into comparisons. -/
structure Term where
  cell : Cell
  /-- The collation was asked for. -/
  isExplicit : Bool := false

namespace Term

/-- The value alone. -/
def value (t : Term) : Datum := t.cell.value

/-- A value that does not come from a column. -/
def plain (v : Datum) : Term := ⟨⟨v, none, none⟩, false⟩

/-- How two values stand to each other. -/
def order (a b : Term) : Option Ordering :=
  let lhs := if b.isExplicit && !a.isExplicit then { a.cell with collation := none } else a.cell
  Cell.order lhs b.cell

/-- A comparison. -/
def compare (relation : Relation) (a b : Term) : Truth :=
  match order a b with
  | some o => .ofBool (relation.holds o)
  | none => .unknown

/-- The same, or both absent. -/
def isSame (a b : Term) : Bool :=
  (a.value.isNull && b.value.isNull) || order a b == some .eq

end Term

/-- What is known of a value beforehand. -/
structure Trait where
  affinity : Option Affinity := none
  collation : Option Collation := none
  /-- The collation was asked for. -/
  isExplicit : Bool := false

/-- What can be asked of one value. -/
structure Scalar where
  trait : Trait := {}
  value : Unit → Calculated Tagged
  /-- Whether it holds as a condition, where an absent value counts as given. -/
  holds : Bool → Calculated Bool
  /-- Whether it holds is known before anything is calculated. -/
  fixed : Option Bool := none
  /-- It is always the same. -/
  isConstant : Bool := false

namespace Scalar

/-- A value that is to be calculated. -/
def calculated (trait : Trait) (isConstant : Bool) (value : Unit → Calculated Tagged) : Scalar where
  trait
  value
  holds unknown := (value ()).map fun v => Truth.counted unknown (Calculation.truth v.value)
  isConstant

/-- A value that is known. -/
def known (v : Datum) (fixed : Option Bool) : Scalar :=
  { calculated {} true fun _ => .ok ⟨v, false⟩ with fixed }

/-- An absent value. -/
def absent : Scalar := known .null none

/-- The value, with what goes along with it. -/
def term (s : Scalar) : Calculated Term :=
  (s.value ()).map fun v =>
    ⟨⟨v.value, s.trait.affinity, s.trait.collation⟩, s.trait.isExplicit⟩

/-- The value, once it was calculated. -/
def settled (s : Scalar) : Calculated Scalar := do
  let v ← s.value ()
  return calculated s.trait s.isConstant fun _ => .ok v

end Scalar

/-- What can be asked of a formula. -/
inductive Meaning
  | scalar (s : Scalar)
  | row (parts : List Meaning)

namespace Meaning

/-- One value of it; several have none. -/
def single : Meaning → Scalar
  | .scalar s => s
  | .row _ => .absent

/-- All values of it. -/
def values : Meaning → List Scalar
  | .scalar s => [s]
  | .row parts => parts.map single

/-- Several values. -/
def isRow : Meaning → Bool
  | .scalar _ => false
  | .row _ => true

/-- It is always the same. -/
def isConstant (m : Meaning) : Bool := m.values.all Scalar.isConstant

/-- What is known beforehand. Of several values, that is what is known of the first one. -/
def trait (m : Meaning) : Trait := (m.values.head?.map Scalar.trait).getD {}

end Meaning

/-! ## Comparisons -/

/-- Values are the same as others, one by one, up to the first that is not. -/
def areEqual (isSame : Bool) : List (Scalar × Scalar) → Truth → Calculated Truth
  | [], so => .ok so
  | (a, b) :: rest, so => do
    let x ← a.term
    let y ← b.term
    match if isSame then .ofBool (x.isSame y) else x.compare .equal y with
    | .no => return .no
    | .unknown => areEqual isSame rest .unknown
    | .yes => areEqual isSame rest so

/-- Values stand to others as the first ones do that differ. -/
def areOrdered (relation : Relation) : List (Scalar × Scalar) → Calculated Truth
  | [] => .ok .unknown
  | [(a, b)] => do return (← a.term).compare relation (← b.term)
  | (a, b) :: rest => do
    match (← a.term).order (← b.term) with
    | none => return .unknown
    | some .eq => areOrdered relation rest
    | some o => return .ofBool (relation.holds o)

/-- A comparison of one value with another, or of several with as many. -/
def Meaning.compare (relation : Relation) (a b : Meaning) : Calculated Truth :=
  let pairs := a.values.zip b.values
  if a.isRow then
    match relation with
    | .equal => areEqual false pairs .yes
    | .notEqual => (areEqual false pairs .yes).map Truth.neg
    | relation => areOrdered relation pairs
  else do return (← a.single.term).compare relation (← b.single.term)

/-- Two values are the same, or several are the same as others. -/
def Meaning.isSame (a b : Meaning) : Calculated Bool :=
  (areEqual true (a.values.zip b.values) .yes).map Truth.isYes

/-- The values, once they were calculated. -/
def Meaning.settled : Meaning → Calculated Meaning
  | .scalar s => s.settled.map .scalar
  | .row parts =>
    (parts.mapM fun p : Meaning => p.single.settled).map fun values => .row (values.map .scalar)

/-! ## Operations -/

/-- The fewest members of a list that are all calculated first, if they are always the same. -/
def fewestMembers : Nat := 3

/-- A value is the same as one of some members, which are calculated one after the other. -/
def isMember (a : Term) : List Scalar → Truth → Calculated Truth
  | [], so => .ok so
  | m :: rest, so => do
    match a.compare .equal (.plain (← m.term).value) with
    | .yes => return .yes
    | t => isMember a rest (so.or t)

/-- A value is among members. Members that are always the same come before it. -/
def isAmong (a : Scalar) (members : List Scalar) : Calculated Truth := do
  if fewestMembers ≤ members.length && members.all Scalar.isConstant then
    let known ← members.mapM Scalar.settled
    isMember (← a.term) known .no
  else isMember (← a.term) members .no

/-- The value that follows the first condition that holds, or the last one. -/
def firstCase : List Scalar → Calculated Tagged
  | condition :: v :: rest => do if ← condition.holds false then v.value () else firstCase rest
  | [other] => other.value ()
  | [] => .ok ⟨.null, false⟩

/-- Conditions that compare one value with others, each followed by the value that goes with it. -/
def casesOf (given : Meaning) : List Meaning → List Scalar
  | condition :: v :: rest =>
    .calculated {} false (fun _ =>
      (given.compare .equal condition).map fun t => ⟨Calculation.ofTruth t, false⟩) ::
      v.single :: casesOf given rest
  | rest => rest.map Meaning.single

/-- The first value that is not absent. -/
def firstPresent : List Scalar → Calculated Tagged
  | [] => .ok ⟨.null, false⟩
  | [s] => s.value ()
  | s :: rest => do
    let v ← s.value ()
    if v.value.isNull then firstPresent rest else return v

/-- The value that a function gives. -/
def Routine.value (f : Routine) (place : Option Place) (parts : List Scalar) :
    Calculated Tagged :=
  match f.body with
  | .strict run => do
    let arguments ← parts.mapM fun p => p.value ()
    run ⟨place, (parts.findSome? fun p => p.trait.collation).getD .binary, arguments⟩
  | .firstPresent => firstPresent parts
  | .cases => firstCase parts
  | .first => (parts.head?.getD .absent).value ()
  | .ofRows _ => .ok ⟨.null, false⟩

/-- One of two conditions that takes the place of both. -/
def simplified? (isOr : Bool) (a b : Scalar) : Option Scalar :=
  if a.fixed = some true ∨ b.fixed = some false then some (if isOr then a else b)
  else if b.fixed = some true ∨ a.fixed = some false then some (if isOr then b else a)
  else none

namespace Operation

/-- What is known beforehand of what comes of some parts. A collation that was asked for goes along.
-/
def trait (o : Operation) (parts : List Meaning) : Trait :=
  let traits := parts.map Meaning.trait
  match o, traits with
  | .plus, [t] => { t with affinity := none }
  | .between, t :: _ => if t.isExplicit then { t with affinity := none } else {}
  | _, traits => (traits.find? Trait.isExplicit).elim {} fun t => { t with affinity := none }

/-- A truth value that may be denied. -/
def maybeNot (negated : Bool) (t : Truth) : Truth := if negated then t.neg else t

/-- The value that comes of some parts, where `place` is what the formula is for. -/
def value (o : Operation) (place : Option Place) (parts : List Meaning) : Calculated Tagged :=
  let part (i : Nat) : Meaning := parts[i]?.getD (.scalar .absent)
  let at_ (i : Nat) : Calculated Datum := ((part i).single.value ()).map Tagged.value
  let plain (v : Datum) : Tagged := ⟨v, false⟩
  let ofTruth (t : Truth) : Tagged := ⟨Calculation.ofTruth t, false⟩
  let unary (f : Datum → Datum) : Calculated Tagged := do return plain (f (← at_ 0))
  let binary (f : Datum → Datum → Datum) : Calculated Tagged := do
    let a ← at_ 0
    return plain (f a (← at_ 1))
  let truths (f : Truth → Truth → Truth) : Calculated Tagged :=
    binary fun a b => Calculation.ofTruth (f (Calculation.truth a) (Calculation.truth b))
  match o with
  | .or => truths Truth.or
  | .and => truths Truth.and
  | .not => unary fun v => Calculation.ofTruth (Calculation.truth v).neg
  | .compare relation => ((part 0).compare relation (part 1)).map ofTruth
  | .same negated =>
    ((part 0).isSame (part 1)).map fun b => ofTruth (maybeNot negated (.ofBool b))
  | .absent negated =>
    unary fun v => Calculation.ofTruth (maybeNot negated (.ofBool v.isNull))
  | .between => do
    let given ← (part 0).settled
    let low ← given.compare .greaterOrEqual (part 1)
    return ofTruth (low.and (← given.compare .lessOrEqual (part 2)))
  | .among => (isAmong (part 0).single ((parts.drop 1).map Meaning.single)).map ofTruth
  | .arithmetic o => binary o.apply
  | .bitAnd => binary (Calculation.onBits (· &&& ·))
  | .bitOr => binary (Calculation.onBits (· ||| ·))
  | .shiftLeft => binary (Calculation.onBits Calculation.shiftLeft)
  | .shiftRight => binary (Calculation.onBits Calculation.shiftRight)
  | .invert => unary fun v => Calculation.onBits (fun a _ => ~~~a) v v
  | .concatenate => binary Calculation.concatenated
  | .plus => (part 0).single.value ()
  | .minus => unary Calculation.negative
  | .choose false => firstCase (parts.map Meaning.single)
  | .choose true => do firstCase (casesOf (← (part 0).settled) (parts.drop 1))
  | .call name _ =>
    match Routine.find? name parts.length with
    | some f => f.value place (parts.map Meaning.single)
    | none => .ok ⟨.null, false⟩
  | .raise => .ok ⟨.null, false⟩

/-- It makes the same of the same parts always. -/
def isSteady (o : Operation) (count : Nat) : Bool :=
  match o with
  | .call name _ => (Routine.find? name count).any fun f => f.isSteady
  | .raise => false
  | _ => true

/-- What comes of some parts. Conditions are asked no more than what they need. -/
def scalar (o : Operation) (place : Option Place) (parts : List Meaning) : Scalar :=
  let isConstant := o.isSteady parts.length && parts.all Meaning.isConstant
  let s := Scalar.calculated (o.trait parts) isConstant fun _ => o.value place parts
  match o, parts with
  | .or, [a, b] =>
    let a := a.single
    let b := b.single
    match simplified? true a b with
    | some x => { s with holds := x.holds, fixed := x.fixed }
    | none =>
      { s with
        holds := fun unknown => do if ← a.holds unknown then return true else b.holds unknown }
  | .and, [a, b] =>
    let a := a.single
    let b := b.single
    match simplified? false a b with
    | some x => { s with holds := x.holds, fixed := x.fixed }
    | none =>
      { s with
        holds := fun unknown => do if ← a.holds unknown then b.holds unknown else return false }
  | .not, [a] => { s with holds := fun unknown => (a.single.holds !unknown).map (!·) }
  | .between, [given, low, high] =>
    { s with
      holds := fun unknown => do
        let given ← given.settled
        if Truth.counted unknown (← given.compare .greaterOrEqual low) then
          return Truth.counted unknown (← given.compare .lessOrEqual high)
        else return false }
  | _, _ => s

/-- A value is the truth value of a word, or it is not. -/
def isTruth (negated b : Bool) (s : Scalar) : Scalar where
  trait := (Operation.same negated).trait [.scalar s]
  value _ := (s.value ()).map fun v =>
    ⟨.ofBool ((Calculation.truth v.value == .ofBool b) != negated), false⟩
  holds _ := if b != negated then s.holds negated else (s.holds !negated).map (!·)
  isConstant := s.isConstant

end Operation

/-! ## Formulas -/

/-- What a name stands for. -/
structure Named where
  cell : Cell
  isJson : Bool := false

/-- What the names in a formula stand for. -/
abbrev Names := List String → String → Option Named

/-- What a formula is for, unless it is a default, and what its names stand for. -/
structure Occasion where
  place : Option Place
  names : Names

namespace Formula

/-- What is asked of a name. -/
def nameScalar (o : Occasion) (qualifiers : List String) (name : String) (style : NameStyle) :
    Scalar :=
  match o.names qualifiers name with
  | some n =>
    .calculated ⟨n.cell.affinity, n.cell.collation, false⟩ false fun _ =>
      .ok ⟨n.cell.value, n.isJson⟩
  | none =>
    match style with
    | .bare =>
      let b := truthWord? name
      .known (b.elim .null .ofBool) b
    | _ => .known (.ofText name) none

/-- The truth value that the right side of an `IS` stands for as a word. In a default, a word is a
value like any other. -/
def truthFor? (o : Occasion) (f : Formula) : Option Bool :=
  if o.place.isNone then none
  else
    match f.uncollated with
    | .truth b => some b
    | .named [] name .bare _ => if (o.names [] name).isSome then none else truthWord? name
    | _ => none

/-- The affinity of the type of a conversion. -/
def castAffinity (type : String) : Affinity :=
  if type.isEmpty then .numeric else Affinity.ofType type

mutual

/-- What can be asked of a formula. -/
def meaning (o : Occasion) : Formula → Meaning
  | .literal v _ => .scalar (.known v none)
  | .number spelling _ => .scalar (.known (numberValue false spelling) (fixedNumber? spelling))
  | .truth b => .scalar (.known (.ofBool b) (some b))
  | .named qualifiers name style _ => .scalar (nameScalar o qualifiers name style)
  | .apply (.same negated) _ [part, other] =>
    match truthFor? o other with
    | some b => .scalar (Operation.isTruth negated b (part.meaning o).single)
    | none =>
      .scalar ((Operation.same negated).scalar o.place [part.meaning o, other.meaning o])
  | .apply .minus _ [.number spelling _] => .scalar (.known (numberValue true spelling) none)
  | .apply operation _ parts => .scalar (operation.scalar o.place (meanings o parts))
  | .collated collation part =>
    let s := (part.meaning o).single
    let trait : Trait :=
      { s.trait with
        collation := some ((Collation.named? collation).getD .binary)
        isExplicit := true }
    .scalar (.calculated trait s.isConstant s.value)
  | .cast type part =>
    let s := (part.meaning o).single
    let affinity := castAffinity type
    .scalar (.calculated { s.trait with affinity := some affinity } s.isConstant fun _ =>
      (s.value ()).map fun v =>
        ⟨Calculation.cast affinity v.value, v.isJson && affinity == .text⟩)
  | .query _ _ => .scalar .absent
  | .parameter _ => .scalar .absent
  | .tuple parts => .row (meanings o parts)

/-- What can be asked of some formulas. -/
def meanings (o : Occasion) : List Formula → List Meaning
  | [] => []
  | part :: rest => part.meaning o :: meanings o rest

end

/-- The value of a formula. -/
def value (o : Occasion) (f : Formula) : Calculated Tagged := (f.meaning o).single.value ()

/-- The value of a formula that takes the place of an absent one. It has no names. -/
def standard (f : Formula) : Calculated Datum :=
  (f.value ⟨none, fun _ _ => none⟩).map Tagged.value

/-- A condition does not fail: it holds or is unknown. -/
def passes (names : Names) (f : Formula) : Calculated Bool :=
  (f.meaning ⟨some .check, names⟩).single.holds true

end Formula

end PooledSql.Sqlite
