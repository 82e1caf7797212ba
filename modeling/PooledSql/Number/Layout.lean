import PooledSql.Number.Shortest

/-!
# Writing doubles

The digits of a double are always the shortest ones; where the point goes and whether an exponent is
written is a matter of layout. Two layouts are in use: the plain one for messages, and the one for
SQL literals, which has to be told apart from an integer.
-/

namespace PooledSql.Number

/-- How digits are laid out. `places` bounds the places of the point that are written positionally
(no bounds: all of them), and `wholeMark` keeps `.0` on whole numbers. -/
structure Layout where
  places : Option (Int × Int)
  wholeMark : Bool

/-- Messages: positional at any size, whole numbers without a fraction. -/
def Layout.plain : Layout := ⟨none, false⟩

/-- SQL literals: positional from 10⁻⁴ to below 10¹⁶, with `.0` on whole numbers; an exponent
outside. -/
def Layout.literal : Layout := ⟨some (-3, 16), true⟩

/-- Digits with the point in its place, padded with zeros on either side. -/
def positional (wholeMark : Bool) (figures : List Char) (place : Int) : List Char :=
  if place ≤ 0 then '0' :: '.' :: (List.replicate (-place).toNat '0' ++ figures)
  else
    let whole := figures.take place.toNat
    let fraction := figures.drop place.toNat
    whole ++ List.replicate (place.toNat - figures.length) '0' ++
      if fraction.isEmpty then (if wholeMark then ['.', '0'] else []) else '.' :: fraction

/-- Digits with the point after the first one, and the exponent that makes up for it. -/
def scientific (figures : List Char) (place : Int) : List Char :=
  let mantissa :=
    match figures with
    | first :: second :: rest => first :: '.' :: second :: rest
    | _ => figures
  mantissa ++ 'e' :: (toString (place - 1)).toList

/-- The text of a decimal in a layout. -/
def Layout.digits (l : Layout) (x : Decimal) : List Char :=
  let (figures, place) := x.figures
  if figures.isEmpty then '0' :: (if l.wholeMark then ['.', '0'] else [])
  else
    match l.places with
    | none => positional l.wholeMark figures place
    | some (least, greatest) =>
      if least ≤ place ∧ place ≤ greatest then positional l.wholeMark figures place
      else scientific figures place

/-- The text of a finite double: its sign and its shortest digits in the layout. -/
def Layout.write (l : Layout) (d : Double) : List Char :=
  let digits := l.digits (Decimal.ofDouble d)
  if d.isNegative then '-' :: digits else digits

end PooledSql.Number

namespace PooledSql.Double

/-- A double as messages show it. -/
def display (d : Double) : String :=
  if d.isNaN then "NaN"
  else if d.isFinite then String.ofList (Number.Layout.plain.write d)
  else if d.isNegative then "-inf" else "inf"

end PooledSql.Double
