import PooledSql.Number.Figures
import PooledSql.Sqlite.Function.Basic
import PooledSql.Text.Hex

/-!
# Formatted texts

A format is a text with fields in it. A field starts with `%`, goes on with marks, a width and a
precision, and ends with the letter of its conversion; the arguments are put into the fields one
after the other. A field that cannot be understood ends the text.
-/

namespace PooledSql.Sqlite.Formatted

open Characters (ascii)
open Number (Figures twoTo)

/-! ## Fields -/

/-- What stands in a field before its conversion. -/
structure Field where
  isLeft : Bool := false
  /-- What stands in front of a number that is not negative. -/
  mark : Option Char := none
  /-- Marked with `#`. -/
  isAlternate : Bool := false
  /-- Marked with `!`. -/
  isExtended : Bool := false
  /-- Marked with `0`. -/
  isZeroed : Bool := false
  isGrouped : Bool := false
  width : Int := 0
  precision : Option Nat := none

/-- The arguments that are left. -/
abbrev Arguments := List Datum

/-- The next argument as an integer; one that is missing is zero. -/
def takeInteger : Arguments → Int64 × Arguments
  | [] => (0, [])
  | v :: rest => (Calculation.toInteger v, rest)

/-- The next argument as an integer of thirty-two bits, by its last bits. -/
def takeSmall (args : Arguments) : Int × Arguments :=
  let (n, args) := takeInteger args
  (n.toInt32.toInt, args)

/-- The next argument as a real. -/
def takeReal : Arguments → Double × Arguments
  | [] => (⟨0⟩, [])
  | v :: rest => (Calculation.toReal v, rest)

/-- The next argument as a text up to its first zero byte, if there is one. -/
def takeText : Arguments → Option (List UInt8) × Arguments
  | [] => (none, [])
  | v :: rest => ((Calculation.textBytes? v).map Characters.untilZero, rest)

/-- The number of some digits, by its last thirty-one bits. -/
def countOf (digits : List Char) : Nat := Numeral.digitsValue digits % twoTo 32 % twoTo 31

/-- Reads a field after its first sign: what stands before its conversion, the conversion, the rest
of the format, and the arguments that are left. -/
def readField : Nat → Field → List Char → Arguments → Option (Field × Char × List Char × Arguments)
  | 0, _, _, _ => none
  | _, _, [], _ => none
  | n + 1, f, c :: rest, args =>
    if c = '-' then readField n { f with isLeft := true } rest args
    else if c = '+' ∨ c = ' ' then readField n { f with mark := some c } rest args
    else if c = '#' then readField n { f with isAlternate := true } rest args
    else if c = '!' then readField n { f with isExtended := true } rest args
    else if c = '0' then readField n { f with isZeroed := true } rest args
    else if c = ',' then readField n { f with isGrouped := true } rest args
    else if c = 'l' then ending f (if rest.head? = some 'l' then rest.drop 1 else rest) args
    else if c.isDigit then
      let (digits, rest) := Sql.spanDigits (c :: rest)
      goOn n { f with width := (countOf digits : Int) } rest args
    else if c = '*' then
      let (width, args) := takeSmall args
      let size := if -2147483647 ≤ width then (width.natAbs : Int) else 0
      goOn n { f with isLeft := f.isLeft || decide (width < 0), width := size } rest args
    else if c = '.' then
      match rest with
      | '*' :: rest =>
        let (k, args) := takeSmall args
        let f := { f with precision := if -2147483647 ≤ k then some k.natAbs else none }
        if rest.head? = some 'l' then readField n f rest args else ending f rest args
      | _ =>
        let (digits, rest) := Sql.spanDigits rest
        let f := { f with precision := some (countOf digits) }
        if rest.head? = some 'l' then readField n f rest args else ending f rest args
    else some (f, c, rest, args)
where
  /-- The conversion that ends a field. -/
  ending (f : Field) : List Char → Arguments → Option (Field × Char × List Char × Arguments)
    | [], _ => none
    | c :: rest, args => some (f, c, rest, args)
  /-- What follows a width. -/
  goOn (n : Nat) (f : Field) (rest : List Char) (args : Arguments) :
      Option (Field × Char × List Char × Arguments) :=
    if rest.head? = some '.' ∨ rest.head? = some 'l' then readField n f rest args
    else ending f rest args

/-! ## Conversions -/

/-- A text in a field of some width. -/
def padded (isLeft : Bool) (width : Int) (s : List UInt8) : List UInt8 :=
  let gap := List.replicate (width - s.length).toNat 32
  if isLeft then s ++ gap else gap ++ s

/-- Digits with commas between groups of three, the last of which are full. -/
def grouped (digits : List Char) : List Char :=
  let rec go : Nat → List Char → List Char
    | 0, s => s
    | n + 1, s => if s.length ≤ 3 then s else s.take 3 ++ ',' :: go n (s.drop 3)
  (go digits.length digits.reverse).reverse

/-- The ending of an ordinal number. -/
def ordinalEnding (n : Nat) : String :=
  if n / 10 % 10 = 1 then "th"
  else match n % 10 with
    | 1 => "st"
    | 2 => "nd"
    | 3 => "rd"
    | _ => "th"

/-- The conversions of integers: the base, whether there is a sign, whether digits are large, and
what is put in front if that is asked for. -/
structure Radix where
  base : Nat
  isSigned : Bool
  isLarge : Bool := true
  intro : String := ""
  isOrdinal : Bool := false
  /-- Groups of digits may be asked for. -/
  groups : Bool := false

/-- The conversion of integers that a letter stands for. -/
def radix? : Char → Option Radix
  | 'd' => some ⟨10, true, true, "", false, true⟩
  | 'i' => some ⟨10, true, true, "", false, true⟩
  | 'u' => some ⟨10, false, true, "", false, true⟩
  | 'x' => some ⟨16, false, false, "0x", false, false⟩
  | 'X' => some ⟨16, false, true, "0X", false, false⟩
  | 'p' => some ⟨16, false, true, "0x", false, false⟩
  | 'o' => some ⟨8, false, true, "0", false, false⟩
  | 'r' => some ⟨10, true, true, "", true, false⟩
  | _ => none

/-- An integer in a field, without its width. -/
def integerText (f : Field) (r : Radix) (n : Int64) : List Char :=
  let isNegative := r.isSigned && decide (n < 0)
  let size := if r.isSigned then n.toInt.natAbs else n.toUInt64.toNat
  let mark : List Char :=
    if isNegative then ['-'] else if r.isSigned then f.mark.toList else []
  let least : Int := (f.precision.map fun k => (k : Int)).getD (-1)
  let least := if f.isZeroed then max least (f.width - mark.length) else least
  let digits := (Nat.toDigits r.base size).map fun c => if r.isLarge then c.toUpper else c
  let digits := if r.isOrdinal then digits ++ (ordinalEnding size).toList else digits
  let digits := List.replicate (least - digits.length).toNat '0' ++ digits
  let digits := if f.isGrouped && r.groups then grouped digits else digits
  (if f.isAlternate && size != 0 then r.intro.toList else []) ++ mark ++ digits

/-- The ways to write a real: with a number of places, with an exponent, or either. -/
inductive RealStyle
  | positional
  | exponential
  | general
deriving DecidableEq

/-- The conversion of reals that a letter stands for, and the letter of its exponent. -/
def realStyle? : Char → Option (RealStyle × Char)
  | 'f' => some (.positional, 'e')
  | 'e' => some (.exponential, 'e')
  | 'E' => some (.exponential, 'E')
  | 'g' => some (.general, 'e')
  | 'G' => some (.general, 'E')
  | _ => none

/-- Digits before and after the point, without zeros at the end if that is asked for. -/
def withPoint (f : Field) (trims : Bool) (whole fraction : List Char) : List Char :=
  let hasPoint := !fraction.isEmpty || f.isAlternate || f.isExtended
  if !hasPoint then whole
  else if !trims then whole ++ '.' :: fraction
  else
    let kept := (fraction.reverse.dropWhile (· == '0')).reverse
    if !kept.isEmpty then whole ++ '.' :: kept
    else if f.isExtended then whole ++ ['.', '0']
    else whole

/-- The exponent of a number, in two digits at least. -/
def exponentOf (letter : Char) (e : Int) : List Char :=
  let digits := Nat.toDigits 10 e.natAbs
  letter :: (if e < 0 then '-' else '+') :: (List.replicate (2 - digits.length) '0' ++ digits)

/-- Digits with a point in its place: `places` digits come after the point. -/
def positionalText (f : Field) (trims : Bool) (x : Figures) (places : Nat) : List Char :=
  let size := x.place.toNat
  let whole := x.digits.take size ++ List.replicate (size - x.digits.length) '0'
  let rest := List.replicate (-x.place).toNat '0' ++ x.digits.drop size
  let fraction := rest.take places ++ List.replicate (places - rest.length) '0'
  let whole := if whole.isEmpty then ['0'] else if f.isGrouped then grouped whole else whole
  withPoint f trims whole fraction

/-- Digits with the point after the first one, and an exponent. -/
def exponentialText (f : Field) (trims : Bool) (letter : Char) (x : Figures) (places : Nat) :
    List Char :=
  let rest := x.digits.drop 1
  let fraction := rest.take places ++ List.replicate (places - rest.length) '0'
  withPoint f trims (x.digits.take 1) fraction ++ exponentOf letter (x.place - 1)

/-- The digits of a real in a style. -/
def magnitudeText (f : Field) (style : RealStyle) (letter : Char) (x : Figures) : List Char :=
  let places := f.precision.getD 6
  match style with
  | .positional => positionalText f f.isExtended x places
  | .exponential => exponentialText f f.isExtended letter x places
  | .general =>
    let places := max places 1 - 1
    let e := x.place - 1
    if e < -4 ∨ (places : Int) < e then exponentialText f (!f.isAlternate) letter x places
    else positionalText f (!f.isAlternate) x ((places : Int) - e).toNat

/-- The greatest number of places after the point. -/
def mostPlaces : Nat := 100000000

/-- More digits than any real has before its zeros. -/
def enoughDigits : Nat := 1000

/-- A real in a field. Zeros can take the place of the width. -/
def realText (f : Field) (style : RealStyle) (letter : Char) (d : Double) : List Char :=
  let trims := if style = .general then !f.isAlternate else f.isExtended
  let places := min (f.precision.getD 6) (if trims then enoughDigits else mostPlaces)
  let f : Field := { f with precision := some places }
  let limit : Int :=
    match style with
    | .positional => -(places : Int)
    | .exponential => places + 1
    | .general => max places 1
  let isNegative := d.isNegative && !d.isZero
  if d.isNaN then (if f.isZeroed then "null" else "NaN").toList
  else if !d.isFinite && !f.isZeroed then
    (if isNegative then ['-'] else f.mark.toList) ++ "Inf".toList
  else
    let x : Figures :=
      if d.isFinite then Figures.ofDouble d limit (if f.isExtended then 26 else 16)
      else ⟨['9'], 1000⟩
    let isHidden :=
      f.isAlternate && f.mark.isNone && style == .positional && decide (x.place ≤ limit)
    let mark : List Char :=
      if isNegative then (if isHidden then [] else ['-']) else f.mark.toList
    let digits := magnitudeText f style letter x
    let gap :=
      if f.isZeroed && !f.isLeft then (f.width - mark.length - digits.length).toNat else 0
    mark ++ List.replicate gap '0' ++ digits

/-- The first bytes of a text: so many, or so many characters. -/
def start (f : Field) (s : List UInt8) : List UInt8 :=
  match f.precision with
  | none => s
  | some n => if f.isExtended then ((Characters.split s).take n).flatten else s.take n

/-- The width of a field in bytes, where it was given in characters. -/
def byteWidth (isExtended : Bool) (width : Int) (s : List UInt8) : Int :=
  if isExtended && decide (0 < width) then width + (s.filter Characters.isTail).length else width

/-- A text in which a quote is written twice. -/
def quoted (f : Field) (conversion : Char) (s : Option (List UInt8)) : List UInt8 :=
  let quote : UInt8 := if conversion = 'w' then 34 else 39
  let enclosed := conversion == 'Q' && s.isSome
  let s := s.getD (ascii (if conversion = 'Q' then "NULL" else "(NULL)"))
  let doubled := (start f s).flatMap fun b => if b = quote then [b, b] else [b]
  if enclosed then quote :: (doubled ++ [quote]) else doubled

/-- The first character of a text, as many times as the precision says. -/
def repeated (f : Field) (s : Option (List UInt8)) : List UInt8 :=
  let unit : List UInt8 :=
    match s.getD [] with
    | [] => [0]
    | b :: rest => b :: (if b.toNat < 0xC0 then [] else (rest.takeWhile Characters.isTail).take 3)
  let times := f.precision.getD 1
  if times ≤ 1 then padded f.isLeft (byteWidth true f.width unit) unit
  else
    let more := (List.replicate (times - 1) unit).flatten
    let width := f.width - (times - 1 : Nat)
    if 1 < width ∧ !f.isLeft then List.replicate (width - 1).toNat 32 ++ more ++ unit
    else more ++ padded f.isLeft (byteWidth true width unit) unit

/-- What a conversion makes of a field, if it is one. -/
def convert? (f : Field) (conversion : Char) (args : Arguments) :
    Option (List UInt8 × Arguments) :=
  let inField (s : List UInt8) : List UInt8 := padded f.isLeft f.width s
  let ofChars (s : List Char) : List UInt8 := inField (s.map fun c => UInt8.ofNat c.toNat)
  match radix? conversion, realStyle? conversion with
  | some r, _ =>
    let (n, args) := takeInteger args
    some (ofChars (integerText f r n), args)
  | _, some (style, letter) =>
    let (d, args) := takeReal args
    some (ofChars (realText f style letter d), args)
  | none, none =>
    if conversion = '%' then some (inField (ascii "%"), args)
    else if conversion = 'n' then some ([], args)
    else
      let (s, args') := takeText args
      if conversion = 'c' then some (repeated f s, args')
      else if conversion = 's' ∨ conversion = 'z' then
        let s := start f (s.getD [])
        some (padded f.isLeft (byteWidth f.isExtended f.width s) s, args')
      else if conversion = 'q' ∨ conversion = 'Q' ∨ conversion = 'w' then
        let s := quoted f conversion s
        some (padded f.isLeft (byteWidth f.isExtended f.width s) s, args')
      else none

/-! ## Formats -/

/-- The longest text, in bytes. -/
def longestText : Nat := 1000000000

/-- A field would be too long. The precision of a text only shortens it, and that of a real is
limited. -/
def isTooLong (f : Field) (conversion : Char) : Bool :=
  let places :=
    if (realStyle? conversion).isSome || ['s', 'z', 'q', 'Q', 'w'].contains conversion then 0
    else f.precision.getD 0
  decide (longestText < max f.width.toNat places)

/-- What is said of a text that is too long. -/
structure TooLong where

/-- What a format makes of arguments: nothing at all, if it has not even an empty part. -/
def format : Nat → List Char → Arguments → Except TooLong (Option (List UInt8))
  | 0, _, _ => .ok none
  | _, [], _ => .ok none
  | n + 1, c :: rest, args =>
    if c ≠ '%' then do
      let more ← format n rest args
      return some (UInt8.ofNat c.toNat :: more.getD [])
    else if rest = [] then .ok (some (ascii "%"))
    else
      match readField (rest.length + 1) {} rest args with
      | none => .ok none
      | some (f, conversion, rest, args) =>
        if isTooLong f conversion then .error {}
        else
          match convert? f conversion args with
          | none => .ok none
          | some (s, args) => do
            let more ← format n rest args
            return some (s ++ more.getD [])

/-- A format, which is the first one of some values, with the others in its fields. A text that
would be too long is absent. -/
def formatted : List Datum → Datum
  | [] => .null
  | v :: args =>
    match Calculation.textBytes? v with
    | none => .null
    | some s =>
      let s := Datum.letters (Characters.untilZero s)
      match format (s.length + 1) s args with
      | .ok (some s) => .text s
      | _ => .null

/-! ## Literals -/

/-- A real as a literal, which is read back as it was: with fifteen digits, or else with more. -/
def realLiteral (d : Double) : List Char :=
  let field : Field := { isExtended := true, isZeroed := true }
  let short := realText { field with precision := some 15 } .general 'e' d
  if (Numeral.read? short).any fun n => n.toDouble.rank == d.rank then short
  else realText { field with precision := some 20 } .exponential 'e' d

/-- A value as a literal. -/
def literal : Datum → List UInt8
  | .null => ascii "NULL"
  | .integer n => ascii (toString n.toInt)
  | .real d => (realLiteral d).map fun c => UInt8.ofNat c.toNat
  | .text s => quoted {} 'Q' (some (Characters.untilZero s))
  | .blob b =>
    ascii "X'" ++ (Text.Hex.encode b).map (fun c => UInt8.ofNat c.toUpper.toNat) ++ ascii "'"

/-- The functions. -/
def routines : List Routine :=
  [.unary "quote" fun v => .text (literal v),
    .total "printf" 0 none fun c => formatted c.values,
    .total "format" 0 none fun c => formatted c.values]

end PooledSql.Sqlite.Formatted
