import PooledSql.Number.Double

/-!
# The fewest digits that read back

A double stands for every real number that rounds to it: an interval around its value, with its ends
when the significand is even. Among the decimals of that interval those with the fewest digits are
wanted, and of these the one nearest to the value; an exact tie goes to the greater.

The search asks each grid `10 ^ e`, from one digit on, for the two neighbours of the value on it.
If any point of a grid lies in the interval, one of those two does, so the first grid with a hit
has the fewest digits. All arithmetic is exact: a grid point and a multiple of the binary unit are
compared by cross-multiplication.

Results:
* `neighbour?_inside`: what a grid answers lies in the interval.
-/

namespace PooledSql.Number

/-- The decimal `digits · 10 ^ exponent`. -/
structure Decimal where
  digits : Nat
  exponent : Int
deriving DecidableEq, Repr

/-- The interval of the reals that round to a value, in quarters of the binary unit: the value is
`value · 2 ^ scale` and the ends are `low` and `high` of the same unit. -/
structure Interval where
  low : Nat
  value : Nat
  high : Nat
  closed : Bool
  scale : Int

/-- The interval of a finite double's absolute value. -/
def Interval.ofDouble (d : Double) : Interval where
  low := 4 * d.significand - (if d.isNarrowBelow then 1 else 2)
  value := 4 * d.significand
  high := 4 * d.significand + 2
  closed := d.significand % 2 == 0
  scale := d.scale - 2

/-- How many decimal digits a natural number has; zero has one. -/
def digitCount (n : Nat) : Nat := (Nat.toDigits 10 n).length

/-- What one step of the grid `10 ^ e` and one binary unit weigh on a common scale. -/
def weights (scale e : Int) : Nat × Nat :=
  (tenTo e.toNat * twoTo (-scale).toNat, twoTo scale.toNat * tenTo (-e).toNat)

namespace Interval

/-- The grid point `c · 10 ^ e` lies in the interval. -/
def contains (i : Interval) (e : Int) (c : Nat) : Bool :=
  let (grid, unit) := weights i.scale e
  if i.closed then i.low * unit ≤ c * grid && c * grid ≤ i.high * unit
  else i.low * unit < c * grid && c * grid < i.high * unit

/-- The point of the grid `10 ^ e` that lies in the interval and is nearest to the value. -/
def neighbour? (i : Interval) (e : Int) : Option Nat :=
  let (grid, unit) := weights i.scale e
  let below := i.value * unit / grid
  match i.contains e below, i.contains e (below + 1) with
  | true, true =>
    if i.value * unit - below * grid < (below + 1) * grid - i.value * unit then some below
    else some (below + 1)
  | true, false => some below
  | false, true => some (below + 1)
  | false, false => none

/-- The `k` with `10 ^ (k - 1) ≤ value < 10 ^ k`. -/
def magnitude (i : Interval) : Int :=
  let num := i.value * twoTo i.scale.toNat
  let den := twoTo (-i.scale).toNat
  let k : Int := (digitCount num : Int) - digitCount den
  if den * tenTo k.toNat ≤ num * tenTo (-k).toNat then k + 1 else k

/-- The decimal with the fewest digits in the interval, nearest to the value. -/
def shortest (i : Interval) : Decimal :=
  let k := i.magnitude
  let hit := (List.range 17).findSome? fun (n : Nat) =>
    let e := k - ((n : Nat) + 1 : Int)
    (i.neighbour? e).map fun c => (⟨c, e⟩ : Decimal)
  hit.getD ⟨0, 0⟩

theorem neighbour?_inside (i : Interval) (e : Int) (c : Nat) (h : i.neighbour? e = some c) :
    i.contains e c = true := by
  simp only [neighbour?] at h
  split at h
  · split at h <;> simp_all
  all_goals simp_all

end Interval

/-- The shortest decimal of a finite double's absolute value; zero for a zero. -/
def Decimal.ofDouble (d : Double) : Decimal :=
  if d.isZero then ⟨0, 0⟩ else (Interval.ofDouble d).shortest

/-- The digits of a decimal from the first one that counts to the last, and the place of the point:
the value is `0.digits · 10 ^ place`. -/
def Decimal.figures (x : Decimal) : List Char × Int :=
  let all := Nat.toDigits 10 x.digits
  let kept := (all.reverse.dropWhile (· == '0')).reverse
  (kept, x.exponent + all.length)

end PooledSql.Number
