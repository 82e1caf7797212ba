import PooledSql.Sql.Truth
import PooledSql.Sqlite.Values

/-!
# Calculating with values

What operators make of values. Every value can be taken as a number, a text as the number that it
starts with, and every value can be taken as a text. What is not defined, such as a division by
zero, gives an absent value, and so do most operations when one of their operands is absent.
Integers that get too large are reals.
-/

namespace PooledSql.Sqlite.Calculation

open Number (twoTo tenTo)
open Sql (Truth spanDigits)

/-! ## Values as numbers and as texts -/

/-- The number that a text starts with; if it starts with none, one without digits. -/
def startNumeral (s : List Char) : Numeral :=
  let (isNegative, s) := Numeral.spanSign (s.dropWhile isPadding)
  let (whole, s) := spanDigits s
  let (fraction, s) : Option (List Char) × List Char :=
    match s with
    | '.' :: rest => (some (spanDigits rest).1, (spanDigits rest).2)
    | _ => (none, s)
  let exponent : Option Int :=
    match s with
    | e :: rest =>
      let (negative, rest) := Numeral.spanSign rest
      let (digits, _) := spanDigits rest
      let n : Int := min (Numeral.digitsValue digits) Numeral.greatestExponent
      if (e = 'e' ∨ e = 'E') ∧ digits ≠ [] then some (if negative then -n else n) else none
    | [] => none
  if whole = [] ∧ fraction.getD [] = [] then ⟨isNegative, [], none, none⟩
  else ⟨isNegative, whole, fraction, exponent⟩

/-- The bytes of a value as a text, unless it is absent. -/
def textBytes? (v : Datum) : Option (List UInt8) :=
  match asText v with
  | .text bytes => some bytes
  | .blob bytes => some bytes
  | _ => none

/-- The bytes of a value, of which an absent one has none. -/
def bytes (v : Datum) : List UInt8 := (textBytes? v).getD []

/-- The number that a text starts with. -/
def startNumber (s : List Char) : Datum :=
  let n := startNumeral s
  match n.toInt64? with
  | some k => .integer k
  | none => .real n.toDouble

/-- A value as a number, unless it is absent. -/
def asQuantity (v : Datum) : Datum :=
  match v with
  | .text bytes => startNumber (Datum.letters bytes)
  | .blob bytes => startNumber (Datum.letters bytes)
  | v => v

/-- A value as a real. A text without digits is a zero with its sign. -/
def toReal (v : Datum) : Double :=
  match v with
  | .integer n => Double.ofInt n.toInt
  | .real d => d
  | .text bytes => (startNumeral (Datum.letters bytes)).toDouble
  | .blob bytes => (startNumeral (Datum.letters bytes)).toDouble
  | .null => ⟨0⟩

/-- The nearest integer of sixty-four bits. -/
def clamp (n : Int) : Int64 :=
  Int64.ofInt (max Int64.minValue.toInt (min Int64.maxValue.toInt n))

/-- A real without its fraction, as an integer. -/
def truncated (d : Double) : Int64 :=
  if d.isFinite then
    let magnitude : Int :=
      if 0 ≤ d.scale then d.significand * twoTo d.scale.toNat
      else d.significand / twoTo (-d.scale).toNat
    clamp (if d.isNegative then -magnitude else magnitude)
  else if d.isNegative then Int64.minValue else Int64.maxValue

/-- The digits that a text starts with, as an integer. -/
def startInteger (s : List Char) : Int64 :=
  let n := startNumeral s
  let value : Int := Numeral.digitsValue n.whole
  clamp (if n.isNegative then -value else value)

/-- A value as an integer. -/
def toInteger (v : Datum) : Int64 :=
  match v with
  | .integer n => n
  | .real d => truncated d
  | .text bytes => startInteger (Datum.letters bytes)
  | .blob bytes => startInteger (Datum.letters bytes)
  | .null => 0

/-- A real result; what is not a number is absent. -/
def realResult (d : Double) : Datum := if d.isNaN then .null else .real d

/-- A number as an integer of sixty-four bits, if it is one. -/
def fitted? (n : Int) : Option Int64 :=
  if Int64.minValue.toInt ≤ n ∧ n ≤ Int64.maxValue.toInt then some (Int64.ofInt n) else none

/-! ## Truth -/

/-- A value as a truth value: zero is false. -/
def truth (v : Datum) : Truth :=
  match asQuantity v with
  | .integer n => .ofBool (n != 0)
  | .real d => .ofBool (!d.isZero)
  | .null => .unknown
  | _ => .no

/-- A truth value as a value. -/
def ofTruth : Truth → Datum
  | .yes => .integer 1
  | .no => .integer 0
  | .unknown => .null

/-! ## Arithmetic -/

/-- The operations of arithmetic. -/
inductive Arithmetic
  | add
  | subtract
  | multiply
  | divide
  | remainder
deriving DecidableEq, Repr

/-- An operation on machine numbers. -/
def onReals (f : Float → Float → Float) (a b : Double) : Datum :=
  realResult ⟨(f (Float.ofBits a.bits) (Float.ofBits b.bits)).toBits⟩

/-- The remainder of a division of integers, which has the sign of the first one. -/
def remainder? (a b : Int64) : Option Int :=
  if b = 0 then none else some (a.toInt.tmod b.toInt)

namespace Arithmetic

/-- An operation on integers, where it is defined and its result is not too large. -/
def onIntegers? (o : Arithmetic) (a b : Int64) : Option Int64 :=
  match o with
  | .add => fitted? (a.toInt + b.toInt)
  | .subtract => fitted? (a.toInt - b.toInt)
  | .multiply => fitted? (a.toInt * b.toInt)
  | .divide => if b = 0 then none else fitted? (a.toInt.tdiv b.toInt)
  | .remainder => (remainder? a b).bind fitted?

/-- An operation on reals. The remainder is one of integers all the
same. -/
def onDoubles (o : Arithmetic) (a b : Datum) : Datum :=
  match o with
  | .add => onReals (· + ·) (toReal a) (toReal b)
  | .subtract => onReals (· - ·) (toReal a) (toReal b)
  | .multiply => onReals (· * ·) (toReal a) (toReal b)
  | .divide => if (toReal b).isZero then .null else onReals (· / ·) (toReal a) (toReal b)
  | .remainder =>
    (remainder? (toInteger a) (toInteger b)).elim .null fun n => .real (Double.ofInt n)

/-- An operation on values. -/
def apply (o : Arithmetic) (a b : Datum) : Datum :=
  match asQuantity a, asQuantity b with
  | .integer m, .integer n => (o.onIntegers? m n).elim (o.onDoubles a b) .integer
  | .null, _ => .null
  | _, .null => .null
  | _, _ => o.onDoubles a b

end Arithmetic

/-- Something made of the integers that two values are, unless one of them is absent. -/
def onBits (f : Int64 → Int64 → Int64) (a b : Datum) : Datum :=
  if a.isNull || b.isNull then .null else .integer (f (toInteger a) (toInteger b))

/-- An integer shifted to the left; by a negative number, to the right. What is shifted out on the
right leaves copies of the sign. -/
def shiftLeft (a n : Int64) : Int64 :=
  let left (a n : Int) : Int64 := if 64 ≤ n then 0 else Int64.ofInt (a * twoTo n.toNat)
  let right (a n : Int) : Int64 :=
    if 64 ≤ n then (if a < 0 then -1 else 0) else Int64.ofInt (a.fdiv (twoTo n.toNat))
  if 0 ≤ n.toInt then left a.toInt n.toInt else right a.toInt (-n.toInt)

/-- An integer shifted to the right. -/
def shiftRight (a n : Int64) : Int64 :=
  if n = Int64.minValue then shiftLeft a Int64.maxValue else shiftLeft a (-n)

/-- The value with the other sign. -/
def negative (v : Datum) : Datum := Arithmetic.subtract.apply (.integer 0) v

/-- Two values as one text. -/
def concatenated (a b : Datum) : Datum :=
  match textBytes? a, textBytes? b with
  | some s, some t => .text (s ++ t)
  | _, _ => .null

/-- A real as an integer, where it is one of less than fifty-two bits. -/
def asShortInteger (d : Double) : Datum :=
  match integral? d with
  | some n => if -(twoTo 51 : Int) ≤ n.toInt ∧ n.toInt < twoTo 51 then .integer n else .real d
  | none => .real d

/-- A value of another kind. -/
def cast (a : Affinity) (v : Datum) : Datum :=
  if v.isNull then .null
  else
    match a with
    | .blob => .blob (bytes v)
    | .text => .text (bytes v)
    | .integer => .integer (toInteger v)
    | .real => .real (toReal v)
    | .numeric =>
      match v with
      | .real d => .real d
      | v =>
        match asQuantity v with
        | .real d => asShortInteger d
        | q => q

end PooledSql.Sqlite.Calculation
