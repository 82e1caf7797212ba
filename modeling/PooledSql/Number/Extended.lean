import PooledSql.Number.Double
import PooledSql.Number.Power

/-!
# Decimals by pairs of doubles

A decimal is turned into a double, and back, by multiplying with powers of ten in about twice the
precision of a double: a number is kept as the sum of two doubles, the second one being what the
first one leaves. That is not always the nearest double, so the order of the steps is part of the
result: first the hundreds of the exponent, then its tens, then its ones.
-/

namespace PooledSql.Number

/-- The sum of two doubles. -/
structure Extended where
  high : Float
  low : Float

/-- A double without the lower half of its fraction, so that products of two such are exact. -/
def leadingHalf (x : Float) : Float := Float.ofBits (x.toBits &&& 0xfffffffffc000000)

namespace Extended

/-- A pair that stands for a natural number below two to the sixty-fourth. -/
def ofNat (n : Nat) : Extended :=
  let high := (UInt64.ofNat n).toFloat
  if high ≤ 18446744073709549568.0 then
    let whole := high.toUInt64.toNat
    ⟨high, if whole ≤ n then (UInt64.ofNat (n - whole)).toFloat
      else -(UInt64.ofNat (whole - n)).toFloat⟩
  else ⟨high, 0.0⟩

/-- The product of two pairs. -/
def times (x y : Extended) : Extended :=
  let hx := leadingHalf x.high
  let tx := x.high - hx
  let hy := leadingHalf y.high
  let ty := y.high - hy
  let p := hx * hy
  let q := hx * ty + tx * hy
  let c := p + q
  let rest := p - c + q + tx * ty
  let rest := x.high * y.low + x.low * y.high + rest
  let high := c + rest
  ⟨high, c - high + rest⟩

/-- A number multiplied with another one some times. -/
def repeatTimes (y : Extended) : Nat → Extended → Extended
  | 0, x => x
  | n + 1, x => repeatTimes y n (x.times y)

/-- Ten, and its powers with the exponents ten and a hundred, up or down. -/
structure Steps where
  hundred : Extended
  ten : Extended
  one : Extended

/-- Multiplying with ten. -/
def Steps.up : Steps where
  hundred := ⟨1.0e+100, -1.5902891109759918046e+83⟩
  ten := ⟨1.0e+10, 0.0⟩
  one := ⟨1.0e+01, 0.0⟩

/-- Dividing by ten. -/
def Steps.down : Steps where
  hundred := ⟨1.0e-100, -1.99918998026028836196e-117⟩
  ten := ⟨1.0e-10, -3.6432197315497741579e-27⟩
  one := ⟨1.0e-01, -5.5511151231257827021e-18⟩

/-- Takes `n` steps. -/
def Steps.take (s : Steps) (n : Nat) (x : Extended) : Extended :=
  repeatTimes s.one (n % 10) (repeatTimes s.ten (n % 100 / 10) (repeatTimes s.hundred (n / 100) x))

/-- A number times ten to an exponent. -/
def scale (x : Extended) (exponent : Int) : Extended :=
  if 0 < exponent then Steps.up.take exponent.toNat x else Steps.down.take (-exponent).toNat x

end Extended

/-! ## From a decimal to a double -/

/-- The greatest significand that another digit can follow. -/
def roomForDigit : Nat := (twoTo 64 - 10) / 10

/-- The greatest significand that another zero can follow on the way to a double. -/
def roomForZero : Nat := (twoTo 64 - 2048) / 10

/-- A significand and a number of tens to be multiplied: as many as there is room for go into it. -/
def absorb : Nat → Nat → Nat × Nat
  | s, 0 => (s, 0)
  | s, n + 1 => if s < roomForZero then absorb (s * 10) n else (s, n + 1)

/-- A significand and a number of tens to be divided by: as many as it ends with are taken off. -/
def shed : Nat → Nat → Nat × Nat
  | s, 0 => (s, 0)
  | s, n + 1 => if s % 10 = 0 then shed (s / 10) n else (s, n + 1)

/-- A significand and an exponent with the exponent brought as near to zero as there is room. -/
def settle (s : Nat) (exponent : Int) : Nat × Int :=
  if 0 ≤ exponent then
    let (s, n) := absorb s exponent.toNat
    (s, n)
  else
    let (s, n) := shed s (-exponent).toNat
    (s, -(n : Int))

/-- The double of a significand that fits into sixty-four bits, times ten to an exponent. -/
def ofDecimal (s : Nat) (exponent : Int) : Double :=
  if s = 0 then ⟨0⟩
  else
    let (s, exponent) := settle s exponent
    let x := (Extended.ofNat s).scale exponent
    let sum := x.high + x.low
    ⟨if sum.isNaN then 0x7ff0000000000000 else sum.toBits⟩

/-! ## From a double to a decimal -/

/-- Multiplies as long as `needed` says so, at most some times; each time adds to the exponent. -/
def stepWhile (needed : Float → Bool) (step : Extended) (weight : Int) :
    Nat → Extended × Int → Extended × Int
  | 0, r => r
  | n + 1, (x, exponent) =>
    if needed x.high then stepWhile needed step weight n (x.times step, exponent + weight)
    else (x, exponent)

/-- A number brought down to the size of eighteen digits, and the exponent that makes up for it. -/
def lower (x : Extended) : Extended × Int :=
  let s := Extended.Steps.down
  stepWhile (9.223372036854774784e+18 < ·) s.one 1 12
    (stepWhile (9.223372036854774784e+28 < ·) s.ten 10 12
      (stepWhile (9.223372036854774784e+118 < ·) s.hundred 100 4 (x, 0)))

/-- A number brought up to the size of eighteen digits, and the exponent that makes up for it. -/
def raise (x : Extended) : Extended × Int :=
  let s := Extended.Steps.up
  stepWhile (· < 9.22337203685477478e+17) s.one (-1) 12
    (stepWhile (· < 9.223372036854774784e+07) s.ten (-10) 12
      (stepWhile (· < 9.223372036854774784e-83) s.hundred (-100) 4 (x, 0)))

/-- About eighteen decimal digits of the size of a finite double that is not zero, and the exponent
of the last of them. -/
def toDecimal (d : Double) : Nat × Int :=
  let x : Extended := ⟨Float.ofBits (d.bits &&& 0x7fffffffffffffff), 0.0⟩
  let (x, exponent) := if 9.223372036854774784e+18 < x.high then lower x else raise x
  let whole := x.high.toUInt64.toNat
  let digits :=
    if x.low < 0.0 then whole - (-x.low).toUInt64.toNat else whole + x.low.toUInt64.toNat
  (digits, exponent)

end PooledSql.Number
