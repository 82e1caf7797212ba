import PooledSql.Number.Extended
import PooledSql.Number.Shortest

/-!
# Significant digits

The digits in which a double is written out: about eighteen are known, and they are rounded, a half
away from zero, to a number of digits or to a number of places after the point.
-/

namespace PooledSql.Number

/-- Digits without zeros at the end, but with one at least, and the place of the point: the value is
`0.digits · 10 ^ place`. -/
structure Figures where
  digits : List Char
  place : Int
deriving DecidableEq, Repr

namespace Figures

/-- The digits of zero. -/
def zero : Figures := ⟨['0'], 1⟩

/-- A number of digits with the first ones kept, and the others rounded into them. -/
def rounded (n kept : Nat) : Nat :=
  let surplus := digitCount n - kept
  if surplus = 0 then n
  else
    let up := if 5 ≤ n / tenTo (surplus - 1) % 10 then 1 else 0
    (n / tenTo surplus + up) * tenTo surplus

/-- The digits of a decimal that is not zero. -/
def ofDecimal (n : Nat) (exponent : Int) : Figures :=
  let (digits, place) := (⟨n, exponent⟩ : Decimal).figures
  ⟨digits, place⟩

/-- The digits of the size of a finite double. There are at most `most` of them; `limit` is how many
there are if it is positive, and else, without its sign, the number of places after the point. -/
def ofDouble (d : Double) (limit : Int) (most : Nat) : Figures :=
  if d.isZero then zero
  else
    let (n, exponent) := toDecimal d
    let count := digitCount n
    let place : Int := count + exponent
    let kept := if 0 < limit then limit else place - limit
    if kept = 0 ∧ limit ≤ 0 ∧ 5 ≤ n / tenTo (count - 1) then ⟨['1'], place + 1⟩
    else if 0 < kept ∧ (kept < count ∨ most < count) then
      ofDecimal (rounded n (min kept.toNat most)) exponent
    else ofDecimal n exponent

end Figures

end PooledSql.Number
