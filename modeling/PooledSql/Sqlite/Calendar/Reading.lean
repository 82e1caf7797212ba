import PooledSql.Sqlite.Calendar.Moment
import PooledSql.Sqlite.Function.Basic

/-!
# Reading moments

A moment is written as a day, as a clock, or as both, where a clock may say by how much it is ahead.
It may also be a number, or a word that asks for the present time.
-/

namespace PooledSql.Sqlite.Moment

/-- A number of exactly so many digits in a range, and the rest. -/
def digits? (count least most : Nat) (s : List Char) : Option (Nat × List Char) :=
  let digits := s.take count
  let n := Numeral.digitsValue digits
  if digits.length = count ∧ digits.all Char.isDigit ∧ least ≤ n ∧ n ≤ most then
    some (n, s.drop count)
  else none

/-- What follows a character. -/
def after? (c : Char) : List Char → Option (List Char)
  | d :: rest => if d = c then some rest else none
  | [] => none

/-- Nothing but blanks is left. -/
def isOver (s : List Char) : Bool := s.all isPadding

/-- Two letters of ASCII words are the same in any letter case. -/
def isWord (word : String) (s : List Char) : Bool := s.map Char.toLower == word.toList

/-! ## Clocks -/

/-- Reads an hour and a minute. -/
def readHour? (greatest : Nat) (s : List Char) : Option (Nat × Nat × List Char) := do
  let (hour, s) ← digits? 2 0 greatest s
  let (minute, s) ← digits? 2 0 59 (← after? ':' s)
  return (hour, minute, s)

/-- Reads by how many minutes a clock is ahead. -/
def readZone? (s : List Char) : Option Int :=
  let ahead (s : List Char) : Option Int := do
    let (hour, minute, s) ← readHour? 14 s
    if isOver s then some (60 * hour + minute) else none
  match s.dropWhile isPadding with
  | [] => some 0
  | '-' :: s => (ahead s).map (-·)
  | '+' :: s => ahead s
  | c :: s => if (c = 'Z' ∨ c = 'z') ∧ isOver s then some 0 else none

/-- The greatest fraction of a second that counts. -/
def greatestFraction : Float := 0.999

/-- The fraction that some digits stand for. -/
def fractionOf (digits : List Char) : Float :=
  let (parts, scale) := digits.foldl (fun ((x, scale) : Float × Float) c =>
    (x * 10.0 + toFloat c.toNat - toFloat 48, scale * 10.0)) (0.0, 1.0)
  let x := parts / scale
  if greatestFraction < x then greatestFraction else x

/-- Reads a second with its fraction. -/
def readSecond? (s : List Char) : Option (Float × List Char) := do
  let (second, s) ← digits? 2 0 59 s
  let (digits, rest) := Sql.spanDigits (s.drop 1)
  if s.head? = some '.' ∧ digits ≠ [] then return (toFloat second + fractionOf digits, rest)
  else return (toFloat second, s)

/-- Reads a clock. -/
def readClock? (s : List Char) : Option Moment := do
  let (hour, minute, s) ← readHour? 24 s
  let (second, s) ← if s.head? = some ':' then readSecond? (s.drop 1) else some (0.0, s)
  let zone ← readZone? s
  return { clock := some ⟨hour, minute, second⟩, zone }

/-! ## Days -/

/-- The greatest year that is read. -/
def greatestYear : Nat := 14712

/-- Reads a year of so many digits, a month and a day, where the least ones are given. -/
def readDate? (digits least : Nat) (s : List Char) : Option (Day × List Char) := do
  let (year, s) ← digits? digits 0 greatestYear s
  let (month, s) ← digits? 2 least 12 (← after? '-' s)
  let (day, s) ← digits? 2 least 31 (← after? '-' s)
  return (⟨year, month, day⟩, s)

/-- Reads a day, which a clock may follow. -/
def readDay? (s : List Char) : Option Moment := do
  let isNegative := s.head? = some '-'
  let (d, s) ← readDate? 4 1 (if isNegative then s.drop 1 else s)
  let d : Day := if isNegative then { d with year := -d.year } else d
  let s := s.dropWhile fun c => isPadding c || c == 'T'
  let m ← if s = [] then some {} else readClock? s
  let m := { m with day := some d, excess := d.excess }
  return if m.zone = 0 then m else m.located

/-! ## Numbers and words -/

/-- The least number that is no day. -/
def daysEnd : Float := 5373484.5

/-- A number in place of a moment. As long as nothing else is said, it counts days. -/
def ofNumber (x : Float) : Moment where
  number := some x
  instant := if 0.0 ≤ x ∧ x < daysEnd then some (whole (x * 86400000.0 + 0.5)) else none

/-- A text as a number, if it is one. -/
def number? (s : List Char) : Option Float :=
  (Numeral.read? s).map fun n => Float.ofBits n.toDouble.bits

/-- Words that ask for milliseconds. -/
def asksParts (s : List Char) : Bool := isWord "subsec" s || isWord "subsecond" s

/-- Reads a moment, where the present time may be no one's business. -/
def read? (present : Calculated Int) (s : List Char) : Calculated (Option Moment) :=
  match readDay? s, readClock? s, number? s with
  | some m, _, _ => .ok (some m)
  | none, some m, _ => .ok (some m)
  | none, none, some x => .ok (some (ofNumber x))
  | none, none, none =>
    if isWord "now" s || asksParts s then
      present.map fun n => some { ofInstant n with showsParts := asksParts s }
    else .ok none

end PooledSql.Sqlite.Moment
