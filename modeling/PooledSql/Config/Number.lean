import PooledSql.Number.Power

/-!
# Whole numbers in arguments

A number is an optional plus, or a minus where negative numbers are possible, and then digits of
ASCII and nothing else. The first fault from the left counts: a character that is no digit, or the
digit with which the number leaves its range.
-/

namespace PooledSql.Config

open PooledSql.Number (twoTo)

/-- Why a text is not a number of the wanted kind. -/
inductive NumberFault
  | invalidDigit
  | empty
  | tooLarge
  | tooSmall
  /-- A number, but not between the two bounds. -/
  | outside (n least greatest : Int)
deriving DecidableEq, Repr

/-- The words of a fault. -/
def NumberFault.message : NumberFault → String
  | .invalidDigit => "invalid digit found in string"
  | .empty => "cannot parse integer from empty string"
  | .tooLarge => "number too large to fit in target type"
  | .tooSmall => "number too small to fit in target type"
  | .outside n least greatest =>
    toString n ++ " is not in " ++ toString least ++ "..=" ++ toString greatest

/-- Reads on from `n`, which may not pass `limit`; the fault of passing it is given. -/
def readDigits (limit : Nat) (passed : NumberFault) (n : Nat) :
    List Char → Except NumberFault Nat
  | [] => .ok n
  | c :: r =>
    if c.isDigit then
      let n := 10 * n + (c.toNat - '0'.toNat)
      if n ≤ limit then readDigits limit passed n r else .error passed
    else .error .invalidDigit

/-- Reads one digit or more. -/
def readNumber (limit : Nat) (passed : NumberFault) (digits : List Char) :
    Except NumberFault Nat :=
  if digits.isEmpty then .error .invalidDigit else readDigits limit passed 0 digits

/-- Reads a natural number up to a limit. -/
def readNatural (limit : Nat) (s : String) : Except NumberFault Nat :=
  match s.toList with
  | [] => .error .empty
  | '+' :: r => readNumber limit .tooLarge r
  | r => readNumber limit .tooLarge r

/-- Reads an integer of sixty-four bits. -/
def readInteger64 (s : String) : Except NumberFault Int :=
  match s.toList with
  | [] => .error .empty
  | '+' :: r => (readNumber (twoTo 63 - 1) .tooLarge r).map Int.ofNat
  | '-' :: r => (readNumber (twoTo 63) .tooSmall r).map fun n => -(n : Int)
  | r => (readNumber (twoTo 63 - 1) .tooLarge r).map Int.ofNat

/-- Reads an integer of thirty-two bits: first as one of sixty-four. -/
def readInteger32 (s : String) : Except NumberFault Int := do
  let n ← readInteger64 s
  if -2147483648 ≤ n ∧ n ≤ 2147483647 then return n
  else throw (.outside n (-2147483648) 2147483647)

end PooledSql.Config
