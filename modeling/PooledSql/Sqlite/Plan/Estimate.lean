import PooledSql.Sqlite.Values

/-!
# Estimates

Which way through a table is the cheapest is told beforehand, from rough estimates of how many rows
there are and how much work they are. An estimate is ten times a binary logarithm, so that one that
is ten higher stands for twice as much, and products are sums. How many rows there really are makes
no difference.
-/

namespace PooledSql.Sqlite.Plan

/-- Ten times a binary logarithm. -/
abbrev Estimate := Int

namespace Estimate

/-- The estimate of a count, by the four leading bits of it. -/
def ofCount (n : Nat) : Estimate :=
  if n < 2 then 0
  else
    let k := Nat.log2 n
    let eighths := (if k < 3 then n <<< (3 - k) else n >>> (k - 3)) - 8
    10 * (k : Int) + ([0, 2, 3, 5, 6, 7, 8, 9].getD eighths 0 : Nat)

/-- What the smaller part adds to the larger one, by how far it is below it. -/
def surplus (distance : Nat) : Nat :=
  if distance < 2 then 10
  else if distance < 4 then 9
  else if distance < 6 then 8
  else if distance < 9 then 7
  else if distance < 12 then 6
  else if distance < 15 then 5
  else if distance < 19 then 4
  else if distance < 25 then 3
  else if distance < 32 then 2
  else if distance < 50 then 1
  else 0

/-- The estimate of a sum. -/
def plus (a b : Estimate) : Estimate := max a b + surplus (a - b).natAbs

/-- How many rows a table is taken to have: a million. -/
def rows : Estimate := 200

/-- The work of finding a row by its key. -/
def search : Estimate := 43

/-- How many values a sub-query is taken to have. -/
def members : Estimate := ofCount 25

/-- How many rows agree in the first `n` columns of an index of `width` columns, which no two rows
agree in altogether. -/
def agreeing (width n : Nat) : Estimate :=
  if n = 0 then rows
  else if width ≤ n then 0
  else [33, 32, 30, 28, 26].getD (n - 1) 23

end Estimate

/-! ## Widths -/

/-- What follows the syllable of a type that a length can be given to, from what was found so far.
-/
def afterSyllable (found : Affinity) (after : Option (List Char)) :
    List Char → Option (List Char)
  | [] => after
  | c :: rest =>
    let s := c :: rest
    let next := found.next s
    let tail := s.drop 4
    let isBytes := next == .blob && found != .blob && tail.head? == some '('
    afterSyllable next (if "char".toList.isPrefixOf s || isBytes then some tail else after) rest

/-- The first number in a text, unless it is too great for a length. -/
def firstNumber (text : List Char) : Nat :=
  let digits := (text.dropWhile fun c => !c.isDigit).takeWhile Char.isDigit
  let n := digits.foldl (fun n c => 10 * n + (c.toNat - 48)) 0
  if n < 2147483648 then n else 0

/-- How wide the values of a declared type are taken to be, in units of four bytes: numbers one
unit, other values by the length that the type gives them, or else five units. -/
def typeWidth (type : String) : Nat :=
  let text := type.toList.map Char.toLower
  if text.isEmpty || (Affinity.ofType type).isNumeric then 1
  else
    match afterSyllable .numeric none text with
    | some rest => min (firstNumber rest / 4 + 1) 255
    | none => 5

/-- The estimate of the bytes of a row, given its width. -/
def rowSize (width : Nat) : Estimate := Estimate.ofCount (4 * width)

end PooledSql.Sqlite.Plan
