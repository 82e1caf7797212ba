import PooledSql.Sqlite.Function.Formatted

/-!
# Functions of numbers and of any values

Sizes, signs and rounding, and the choice among values by their order.
-/

namespace PooledSql.Sqlite.Numbers

open Calculation (toInteger toReal)

/-- A value without its sign. -/
def absolute : Datum → Calculated Datum
  | .null => .ok .null
  | .integer n =>
    if n = Int64.minValue then .error .integerOverflow
    else .ok (.integer (if n < 0 then -n else n))
  | v =>
    let d := toReal v
    .ok (.real (if d.isNegative && !d.isZero then ⟨d.bits &&& 0x7fffffffffffffff⟩ else d))

/-- The sign of a value that is a number. -/
def signOf (v : Datum) : Datum :=
  match asNumber v with
  | .integer n => .integer (if n < 0 then -1 else if n = 0 then 0 else 1)
  | .real d => .integer (if d.isZero then 0 else if d.isNegative then -1 else 1)
  | _ => .null

/-- From this size on there are no fractions. -/
def wholeSize : Float := 4503599627370496.0

/-- A real rounded to a whole number, halves away from zero. -/
def roundedWhole (d : Double) : Double :=
  let x := Float.ofBits d.bits
  let moved := if x < 0.0 then x - 0.5 else x + 0.5
  Double.ofInt (Calculation.truncated ⟨moved.toBits⟩).toInt

/-- A real rounded to some places after the point, by way of its digits. -/
def roundedPlaces (d : Double) (places : Nat) : Double :=
  let field : Formatted.Field := { isExtended := true, precision := some places }
  ((Numeral.read? (Formatted.realText field .positional 'e' d)).map Numeral.toDouble).getD d

/-- A value rounded to some places after the point. -/
def rounded (v : Datum) (places : Option Datum) : Datum :=
  if v.isNull || (places.map Datum.isNull).getD false then .null
  else
    let d := toReal v
    let places := ((places.map toInteger).getD 0).toInt32.toInt
    let places := (max 0 (min 30 places)).toNat
    let x := Float.ofBits d.bits
    if x < -wholeSize || wholeSize < x then .real d
    else if places = 0 then .real (roundedWhole d)
    else .real (roundedPlaces d places)

/-- How one value stands to another one, where absent values come first and are the same. -/
def rank (c : Collation) (a b : Datum) : Ordering :=
  match order c a b with
  | some o => o
  | none => compare (if a.isNull then 0 else 1 : Nat) (if b.isNull then 0 else 1)

/-- The least value, and the last one of the same, or the greatest value, and the first one. -/
def preferred (isLeast : Bool) (c : Collation) (a b : Tagged) : Tagged :=
  let isLess := decide (rank c a.value b.value = .lt)
  if isLeast then (if isLess then a else b) else if isLess then b else a

/-- The least or the greatest of some values, none of which is absent. -/
def extreme (isLeast : Bool) (c : Collation) : List Tagged → Tagged
  | [] => ⟨.null, false⟩
  | v :: rest =>
    if (v :: rest).any fun v => v.value.isNull then ⟨.null, false⟩
    else rest.foldl (preferred isLeast c) v

/-- The first of two values, unless they are the same. -/
def unlessSame (c : Call) : Tagged :=
  if rank c.collation (c.argument 0) (c.argument 1) = .eq then ⟨.null, false⟩
  else c.arguments.head?.getD ⟨.null, false⟩

/-- A function that gives one of its arguments. -/
def choosing (name : String) (most : Option Nat) (run : Call → Tagged) : Routine :=
  ⟨name, 2, most, .strict fun c => .ok (run c), true, false⟩

/-- The name of the kind of a value. -/
def kindName : Datum → String
  | .null => "null"
  | .integer _ => "integer"
  | .real _ => "real"
  | .text _ => "text"
  | .blob _ => "blob"

/-- The mark of texts that are JSON values. -/
def jsonMark : Int64 := 74

/-- The functions. -/
def routines : List Routine :=
  [.failing "abs" 1 (some 1) fun c => absolute (c.argument 0),
    .unary "sign" signOf,
    .unary "typeof" fun v => .ofText (kindName v),
    .total "subtype" 1 (some 1) fun c =>
      .integer (if c.arguments.any Tagged.isJson then jsonMark else 0),
    .total "round" 1 (some 2) fun c => rounded (c.argument 0) (c.argument? 1),
    choosing "nullif" (some 2) unlessSame,
    choosing "min" none fun c => extreme true c.collation c.arguments,
    choosing "max" none fun c => extreme false c.collation c.arguments,
    ⟨"coalesce", 2, none, .firstPresent, true, false⟩,
    ⟨"ifnull", 2, some 2, .firstPresent, true, false⟩,
    ⟨"iif", 2, none, .cases, true, false⟩,
    ⟨"if", 2, none, .cases, true, false⟩,
    ⟨"likely", 1, some 1, .first, true, false⟩,
    ⟨"unlikely", 1, some 1, .first, true, false⟩,
    ⟨"likelihood", 2, some 2, .first, true, false⟩]

end PooledSql.Sqlite.Numbers
