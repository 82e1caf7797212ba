import PooledSql.Number.Power

/-!
# Doubles by their bits

A double is its 64 bits: a sign, eleven bits of exponent and fifty-two of fraction. Keeping the bits
and not a machine number makes equality of values decidable and lets every rule about doubles be
stated in exact natural-number arithmetic.

Results:
* `magnitude_neg`: changing the sign changes neither significand nor scale.
-/

namespace PooledSql

/-- A double-precision number, given by its bits. -/
structure Double where
  bits : UInt64
deriving DecidableEq, Repr

namespace Double

open Number (twoTo)

/-- The bits without the sign. -/
def payload (d : Double) : Nat := d.bits.toNat % twoTo 63

/-- The sign bit is set; also of a zero and of a NaN. -/
def isNegative (d : Double) : Bool := decide (twoTo 63 ≤ d.bits.toNat)

/-- The eleven exponent bits. -/
def exponentField (d : Double) : Nat := d.payload / twoTo 52

/-- The fifty-two fraction bits. -/
def fraction (d : Double) : Nat := d.payload % twoTo 52

/-- Neither an infinity nor a NaN. -/
def isFinite (d : Double) : Bool := d.exponentField != 2047

/-- A bit pattern that stands for no number. -/
def isNaN (d : Double) : Bool := d.exponentField == 2047 && d.fraction != 0

/-- Either zero. -/
def isZero (d : Double) : Bool := d.payload == 0

/-- `m` in the absolute value `m · 2 ^ scale` of a finite double. -/
def significand (d : Double) : Nat :=
  if d.exponentField = 0 then d.fraction else d.fraction + twoTo 52

/-- The binary exponent that goes with `significand`. -/
def scale (d : Double) : Int :=
  if d.exponentField = 0 then -1074 else (d.exponentField : Int) - 1075

/-- The next smaller magnitude is half as far away as the next greater one. -/
def isNarrowBelow (d : Double) : Bool := d.fraction == 0 && decide (1 < d.exponentField)

/-- The position of a number that is not a NaN in the order of numbers; both zeros share theirs. -/
def rank (d : Double) : Int := if d.isNegative then -(d.payload : Int) else d.payload

/-- Equality of numbers: a NaN equals nothing and the two zeros equal each other. -/
def same (a b : Double) : Bool := !a.isNaN && !b.isNaN && a.rank == b.rank

/-- The number as an exact integer, where it is one. -/
def toInt? (d : Double) : Option Int :=
  if d.isFinite then
    let m := d.significand
    let signed (n : Nat) : Int := if d.isNegative then -(n : Int) else n
    if 0 ≤ d.scale then some (signed (m * twoTo d.scale.toNat))
    else if m % twoTo (-d.scale).toNat = 0 then some (signed (m / twoTo (-d.scale).toNat))
    else none
  else none

/-- How an integer stands to a double that is not a NaN. -/
def compareInt (n : Int) (d : Double) : Ordering :=
  if d.isFinite then
    let m : Int := if d.isNegative then -(d.significand : Int) else d.significand
    if 0 ≤ d.scale then compare n (m * twoTo d.scale.toNat)
    else compare (n * twoTo (-d.scale).toNat) m
  else if d.isNegative then .gt else .lt

/-- The double nearest to an integer of at most sixty-four bits, an exact half going to the even
neighbour. -/
def ofInt (n : Int) : Double :=
  let a := n.natAbs
  if a = 0 then ⟨0⟩
  else
    let e := Nat.log2 a
    let rounded :=
      if e ≤ 52 then a * twoTo (52 - e)
      else
        let unit := twoTo (e - 52)
        let whole := a / unit
        let twice := 2 * (a % unit)
        if unit < twice ∨ (twice = unit ∧ whole % 2 = 1) then whole + 1 else whole
    let magnitude := (e + 1022) * twoTo 52 + rounded
    ⟨UInt64.ofNat (if n < 0 then twoTo 63 + magnitude else magnitude)⟩

theorem magnitude_neg (a b : Double) (h : a.payload = b.payload) :
    a.significand = b.significand ∧ a.scale = b.scale := by
  simp [significand, scale, exponentField, fraction, h]

example : ofInt 1 = ⟨0x3ff0000000000000⟩ := by decide
example : ofInt (-9007199254740993) = ⟨0xc340000000000000⟩ := by decide
example : toInt? ⟨0xc000000000000000⟩ = some (-2) := by decide

end Double

end PooledSql
