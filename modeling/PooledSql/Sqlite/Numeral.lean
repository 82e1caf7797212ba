import PooledSql.Number.Figures
import PooledSql.Number.Layout
import PooledSql.Sql.Lexer

/-!
# Numbers as text

How storage reads a text as a number, and how it writes a number as text. A text is a number if it
is nothing else but blanks around it: digits with a sign, a point and an exponent. Reals are
written with fifteen significant digits.
-/

namespace PooledSql.Sqlite

open Number (roomForDigit ofDecimal twoTo)
open Sql (spanDigits)

/-- A character that may stand around a number. -/
def isPadding (c : Char) : Bool := c == ' ' || (decide (9 ≤ c.toNat) && decide (c.toNat ≤ 13))

/-- A number as it is written. -/
structure Numeral where
  isNegative : Bool
  /-- The digits before the point. -/
  whole : List Char
  /-- The digits after the point, if there is one. -/
  fraction : Option (List Char)
  /-- The exponent, if there is one. -/
  exponent : Option Int
deriving DecidableEq, Repr

namespace Numeral

/-- A sign that a text starts with (negative or not), and the rest. -/
def spanSign : List Char → Bool × List Char
  | '-' :: rest => (true, rest)
  | '+' :: rest => (false, rest)
  | s => (false, s)

/-- The number that some digits stand for. -/
def digitsValue (digits : List Char) : Nat :=
  digits.foldl (fun n c => 10 * n + (c.toNat - '0'.toNat)) 0

/-- Exponents beyond this one make no difference. -/
def greatestExponent : Nat := 10000

/-- Reads the exponent of a number, which is all that is left of the text. -/
def readExponent? : List Char → Option (Option Int)
  | [] => some none
  | e :: rest =>
    let (negative, rest) := spanSign rest
    let (digits, rest) := spanDigits rest
    let n : Int := min (digitsValue digits) greatestExponent
    if (e = 'e' ∨ e = 'E') ∧ digits ≠ [] ∧ rest = [] then some (some (if negative then -n else n))
    else none

/-- Reads a text as a number, if it is one. -/
def read? (s : List Char) : Option Numeral :=
  let s := ((s.dropWhile isPadding).reverse.dropWhile isPadding).reverse
  let (isNegative, s) := spanSign s
  let (whole, s) := spanDigits s
  let (fraction, s) : Option (List Char) × List Char :=
    match s with
    | '.' :: rest => (some (spanDigits rest).1, (spanDigits rest).2)
    | _ => (none, s)
  if whole = [] ∧ fraction.getD [] = [] then none
  else (readExponent? s).map fun exponent => ⟨isNegative, whole, fraction, exponent⟩

/-- Has neither a point nor an exponent. -/
def isWhole (n : Numeral) : Bool := n.fraction.isNone && n.exponent.isNone

/-- The digits that count, as a number, and the exponent of the last one of them. -/
def significand (n : Numeral) : Nat × Int :=
  let digit (c : Char) : Nat := c.toNat - '0'.toNat
  let (s, e) := n.whole.foldl (fun ((s, e) : Nat × Int) c =>
    if s < roomForDigit then (10 * s + digit c, e) else (s, e + 1)) (0, 0)
  (n.fraction.getD []).foldl (fun (s, e) c =>
    if s < roomForDigit then (10 * s + digit c, e - 1) else (s, e)) (s, e)

/-- The real that the number is read as. -/
def toDouble (n : Numeral) : Double :=
  let (s, e) := n.significand
  let magnitude := ofDecimal s (e + n.exponent.getD 0)
  if n.isNegative then ⟨magnitude.bits ||| 0x8000000000000000⟩ else magnitude

/-- The integer that a number without point and exponent is, if it is of sixty-four bits. -/
def toInt64? (n : Numeral) : Option Int64 :=
  let value : Int := digitsValue n.whole
  let value := if n.isNegative then -value else value
  if n.isWhole ∧ -(twoTo 63 : Int) ≤ value ∧ value < twoTo 63 then some (Int64.ofInt value)
  else none

end Numeral

/-! ## Writing -/

/-- How many significant digits of a real are written. -/
def significantDigits : Nat := 15

/-- The exponent of a number, in two digits at least. -/
def exponentText (e : Int) : List Char :=
  let digits := Nat.toDigits 10 e.natAbs
  'e' :: (if e < 0 then '-' else '+') :: (List.replicate (2 - digits.length) '0' ++ digits)

/-- A real as text, which always has a point. -/
def realText (d : Double) : String :=
  let magnitude :=
    if d.isZero then ['0', '.', '0']
    else if !d.isFinite then ['I', 'n', 'f']
    else
      let ⟨figures, place⟩ := Number.Figures.ofDouble d significantDigits 26
      if -3 ≤ place ∧ place ≤ significantDigits then Number.positional true figures place
      else
        Number.positional true figures 1 ++ exponentText (place - 1)
  String.ofList (if d.isNegative && !d.isZero then '-' :: magnitude else magnitude)

end PooledSql.Sqlite
