import PooledSql.Relation
import PooledSql.Sqlite.Calculation
import PooledSql.Text.Hex

/-!
# Formulas

What a table says about its rows: conditions that hold for each of them, and the values that go into
a column by themselves. A formula is made of the columns of one row and of literals.

A word that is not the name of a column may be one of the two truth values, and a name in double
quotes that belongs to no column is a text.
-/

namespace PooledSql.Sqlite

open Calculation (Arithmetic)

/-- How a name is written. -/
inductive NameStyle
  | bare
  | doubleQuoted
  | quoted
deriving DecidableEq, Repr

/-- What stands with the call of a function beside its arguments. -/
structure CallManner where
  /-- Its arguments come in an order. -/
  isOrdered : Bool := false
  /-- Only some rows count. -/
  isFiltered : Bool := false
  /-- It works on the rows in a window. -/
  isWindowed : Bool := false
deriving DecidableEq, Repr

/-- What a formula does with its parts. -/
inductive Operation
  | or
  | and
  | not
  | compare (relation : Relation)
  /-- The same, where absent values are the same as each other. -/
  | same (negated : Bool)
  | absent (negated : Bool)
  | between
  | among
  | arithmetic (o : Arithmetic)
  | bitAnd
  | bitOr
  | shiftLeft
  | shiftRight
  | invert
  | concatenate
  | plus
  | minus
  /-- The value that goes with the first condition, or the first value like a given one. -/
  | choose (given : Bool)
  | call (name : String) (manner : CallManner)
  /-- The end of what another program does. -/
  | raise
deriving DecidableEq, Repr

/-- A formula. Its parts know where in the text they start. -/
inductive Formula
  | literal (v : Datum) (start : Nat)
  /-- A number as it is written, without its sign. -/
  | number (spelling : List Char) (start : Nat)
  | truth (b : Bool)
  | named (qualifiers : List String) (name : String) (style : NameStyle) (start : Nat)
  | apply (operation : Operation) (start : Nat) (parts : List Formula)
  | collated (collation : String) (part : Formula)
  | cast (type : String) (part : Formula)
  /-- A sub-query of some columns, below something that starts somewhere, if it does. -/
  | query (start : Option Nat) (width : Nat)
  | parameter (start : Nat)
  /-- Several values in parentheses. -/
  | tuple (parts : List Formula)
deriving Repr

namespace Formula

/-! ## Numbers -/

/-- A number without the marks between its digits. -/
def unmarked (spelling : List Char) : List Char := spelling.filter (· != '_')

/-- The digits of a hexadecimal number, if it is one. -/
def hexDigits? (spelling : List Char) : Option (List Char) :=
  match unmarked spelling with
  | '0' :: x :: digits => if x = 'x' ∨ x = 'X' then some digits else none
  | _ => none

/-- The number that some hexadecimal digits stand for. -/
def hexValue (digits : List Char) : Nat :=
  digits.foldl (fun n c => 16 * n + (Text.Hex.digit? c).getD 0) 0

/-- A hexadecimal number that does not fit into sixty-four bits, or cannot have another sign. -/
def isOversized (isNegated : Bool) (spelling : List Char) : Bool :=
  match hexDigits? spelling with
  | none => false
  | some digits =>
    16 < (digits.dropWhile (· == '0')).length ||
      (isNegated && hexValue digits == 0x8000000000000000)

/-- What a number stands for, with another sign if it is negated. -/
def numberValue (isNegated : Bool) (spelling : List Char) : Datum :=
  match hexDigits? spelling with
  | some digits =>
    let k := (UInt64.ofNat (hexValue digits)).toInt64
    .integer (if isNegated then -k else k)
  | none =>
    match Numeral.read? (unmarked spelling) with
    | none => .null
    | some n =>
      let n := { n with isNegative := isNegated }
      match n.toInt64? with
      | some k => .integer k
      | none => .real n.toDouble

/-- The truth value that a number without marks has before anything is calculated, which only small
integers have. -/
def fixedNumber? (spelling : List Char) : Option Bool :=
  if spelling.contains '_' then none
  else
    match numberValue false spelling with
    | .integer n => if n.toInt.natAbs < 0x80000000 ∧ 0 ≤ n then some (n != 0) else none
    | _ => none

/-! ## Shape -/

/-- Where the first part starts that a refusal would point to. -/
def start? : Formula → Option Nat
  | .literal _ start => some start
  | .number _ start => some start
  | .truth _ => none
  | .named _ _ _ start => some start
  | .apply (.call _ _) start _ => some start
  | .apply (.choose false) _ _ => none
  | .apply _ _ [] => none
  | .apply _ _ (part :: _) => part.start?
  | .collated _ part => part.start?
  | .cast _ part => part.start?
  | .query start _ => start
  | .parameter start => some start
  | .tuple _ => none

mutual

/-- How high a formula is. Some parts count for nothing: what is collated, what is in parentheses
with others, and the limits of a range. -/
def height : Formula → Nat
  | .named qualifiers _ _ _ => qualifiers.length + 1
  | .apply .between _ (part :: _) => height part + 1
  | .apply _ _ parts => heights parts + 1
  | .cast _ part => height part + 1
  | _ => 1

/-- The greatest height of some formulas. -/
def heights : List Formula → Nat
  | [] => 0
  | part :: rest => max (height part) (heights rest)

end

/-- How high a formula may be. -/
def greatestHeight : Nat := 1000

/-- How many values a formula has. -/
def width : Formula → Nat
  | .tuple parts => parts.length
  | .query _ width => width
  | _ => 1

/-! ## Words -/

/-- The truth value that a word stands for. -/
def truthWord? (name : String) : Option Bool :=
  [("TRUE", true), ("FALSE", false)].lookup (name.map Char.toUpper)

/-- A formula without the collations that are asked for at its top. -/
def uncollated : Formula → Formula
  | .collated _ part => part.uncollated
  | f => f

/-- A formula in which the words for truth values can be nothing else. -/
def settled : Formula → Formula
  | .named [] name .bare start => ((truthWord? name).map truth).getD (.named [] name .bare start)
  | .collated collation part => .collated collation part.settled
  | f => f

mutual

/-- A formula has the same value always: there are no names in it, nor sub-queries or parameters. -/
def isConstant : Formula → Bool
  | .literal _ _ => true
  | .number _ _ => true
  | .truth _ => true
  | .named [] name .bare _ => (truthWord? name).isSome
  | .named _ _ _ _ => false
  | .apply .raise _ _ => false
  | .apply _ _ parts => areConstant parts
  | .collated _ part => isConstant part
  | .cast _ part => isConstant part
  | .query _ _ => false
  | .parameter _ => false
  | .tuple parts => areConstant parts

/-- Some formulas have the same values always. -/
def areConstant : List Formula → Bool
  | [] => true
  | part :: rest => isConstant part && areConstant rest

end

mutual

/-- A formula has the same value always, as can be told from the text alone: it has no calls, but
may have parameters. -/
def isPlain : Formula → Bool
  | .literal _ _ => true
  | .number _ _ => true
  | .truth _ => true
  | .named [] name .bare _ => (truthWord? name).isSome
  | .named _ _ _ _ => false
  | .apply .raise _ _ => false
  | .apply (.call _ _) _ _ => false
  | .apply _ _ parts => arePlain parts
  | .collated _ part => isPlain part
  | .cast _ part => isPlain part
  | .query _ _ => false
  | .parameter _ => true
  | .tuple parts => arePlain parts

/-- Some formulas have the same values always, as can be told from the text alone. -/
def arePlain : List Formula → Bool
  | [] => true
  | part :: rest => isPlain part && arePlain rest

end

mutual

/-- A formula calls a function, as it is known where something is put above it. -/
def calls : Formula → Bool
  | .apply (.call _ _) _ _ => true
  | .apply .between _ (part :: _) => calls part
  | .apply _ _ parts => someCalls parts
  | .cast _ part => calls part
  | .tuple (part :: _) => calls part
  | _ => false

/-- One of some formulas calls a function. -/
def someCalls : List Formula → Bool
  | [] => false
  | part :: rest => calls part || someCalls rest

end

/-- Two conditions that are to hold both. If one of them is false and neither calls a function, that
is false. -/
def conjunction (left right : Formula) : Formula :=
  let isFalse : Formula → Bool
    | .truth b => !b
    | .number spelling _ => fixedNumber? spelling == some false
    | _ => false
  if (isFalse left || isFalse right) && !left.calls && !right.calls then .number ['0'] 0
  else .apply .and 0 [left, right]

mutual

/-- The names in a formula that may be those of columns. -/
def columnNames : Formula → List String
  | .named _ name _ _ => [name]
  | .apply _ _ parts => listColumnNames parts
  | .collated _ part => columnNames part
  | .cast _ part => columnNames part
  | .tuple parts => listColumnNames parts
  | _ => []

/-- The names in some formulas. -/
def listColumnNames : List Formula → List String
  | [] => []
  | part :: rest => columnNames part ++ listColumnNames rest

end

end Formula

end PooledSql.Sqlite
