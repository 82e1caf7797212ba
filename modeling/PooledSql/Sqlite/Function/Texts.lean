import PooledSql.Sqlite.Function.Basic
import PooledSql.Sqlite.Pattern
import PooledSql.Text.Hex

/-!
# Functions of texts and byte strings

Parts of texts and places in them, patterns, and conversions between texts and their bytes. Where a
text is taken character by character, a zero byte ends it.
-/

namespace PooledSql.Sqlite.Texts

open Calculation (bytes textBytes? toInteger)
open Characters (untilZero)

/-- Something made of the bytes of a value as a text, unless that is absent. -/
def onBytes (f : List UInt8 → Datum) (v : Datum) : Datum := (textBytes? v).elim .null f

/-- The characters of a text up to its first zero byte. -/
def characters (s : List UInt8) : List (List UInt8) := Characters.split (untilZero s)

/-- How long a value is: a text in characters, everything else in bytes. -/
def lengthOf : Datum → Datum
  | .null => .null
  | .text s => .ofNat (characters s).length
  | v => .ofNat (bytes v).length

/-- A letter of ASCII in lower case. -/
def lowerByte (b : UInt8) : UInt8 := if 65 ≤ b ∧ b ≤ 90 then b + 32 else b

/-- A letter of ASCII in upper case. -/
def upperByte (b : UInt8) : UInt8 := if 97 ≤ b ∧ b ≤ 122 then b - 32 else b

/-! ## Parts -/

/-- The greatest number of characters or bytes. -/
def greatestLength : Int := 1000000000

/-- Where a part begins, counted from zero, and how long it is at most. The first item has the
place one, a negative place is counted from the end, and a negative length goes backwards. -/
def portion (size start : Int) (count : Option Int) : Nat × Nat :=
  let backwards := (count.map fun n => decide (n < 0)).getD false
  let count := (count.map fun n => (n.natAbs : Int)).getD greatestLength
  let (start, count) : Int × Int :=
    if start < 0 then
      let first := start + size
      if first < 0 then (0, max 0 (count + first)) else (first, count)
    else if 0 < start then (start - 1, count)
    else (0, if 0 < count then count - 1 else count)
  if backwards then
    let first := start - count
    if first < 0 then (0, (count + first).toNat) else (first.toNat, count.toNat)
  else (start.toNat, count.toNat)

/-- A part of a value. -/
def portionOf (v start : Datum) (count : Option Datum) : Datum :=
  if start.isNull || (count.map Datum.isNull).getD false then .null
  else
    let start := (toInteger start).toInt
    let count := count.map fun c => (toInteger c).toInt
    match v with
    | .null => .null
    | .blob [] => .null
    | .blob b =>
      let (first, n) := portion b.length start count
      .blob ((b.drop first).take n)
    | v =>
      let s := characters (bytes v)
      let (first, n) := portion s.length start count
      .text ((s.drop first).take n).flatten

/-- A text in which every occurrence of another one is exchanged. -/
def exchanged (old new : List UInt8) : Nat → List UInt8 → List UInt8
  | 0, s => s
  | _, [] => []
  | n + 1, c :: s =>
    if old.isPrefixOf (c :: s) then new ++ exchanged old new n ((c :: s).drop old.length)
    else c :: exchanged old new n s

/-- A value in which every occurrence of another one is exchanged for a third one. -/
def replaced (v old new : Datum) : Datum :=
  match textBytes? v, textBytes? old with
  | some s, some old =>
    if (untilZero old).isEmpty then .text s
    else onBytes (fun new => .text (exchanged old new s.length s)) new
  | _, _ => .null

/-- The place of some bytes in some units of others, counted from one; zero if they are not there.
-/
def placeOf (part : List UInt8) : List (List UInt8) → Nat
  | [] => if part.isEmpty then 1 else 0
  | c :: s =>
    if part.isPrefixOf (c :: s).flatten then 1
    else match placeOf part s with
      | 0 => 0
      | n => n + 1

/-- The characters of a text as a search takes them: bytes that go on with one belong to it, also if
it has not begun. -/
def searchUnits : List UInt8 → List (List UInt8)
  | [] => []
  | b :: rest =>
    let tail := rest.takeWhile Characters.isTail
    (b :: tail) :: searchUnits (rest.drop tail.length)
termination_by s => s.length
decreasing_by simp only [List.length_drop, List.length_cons]; omega

/-- The place of a value in another one. -/
def placeIn (v part : Datum) : Datum :=
  match v, part with
  | .null, _ => .null
  | _, .null => .null
  | .blob a, .blob b => .ofNat (placeOf b (a.map fun x => [x]))
  | v, part => .ofNat (placeOf (bytes part) (searchUnits (bytes v)))

/-- A text without what it starts with of some characters. -/
def trimStart (set : List (List UInt8)) : Nat → List UInt8 → List UInt8
  | 0, s => s
  | n + 1, s =>
    match set.find? fun c => !s.isEmpty && c.isPrefixOf s with
    | some c => trimStart set n (s.drop c.length)
    | none => s

/-- A text without some characters at its ends. -/
def trimmed (atStart atEnd : Bool) (v : Datum) (set : Option Datum) : Datum :=
  match set.elim (some [32]) textBytes? with
  | none => .null
  | some set =>
    let set := characters set
    onBytes (fun s =>
      let s := if atStart then trimStart set s.length s else s
      let s :=
        if atEnd then (trimStart (set.map List.reverse) s.length s.reverse).reverse else s
      .text s) v

/-! ## Patterns -/

/-- The longest pattern, in bytes. -/
def longestPattern : Nat := 50000

/-- The codes of the characters of a text. -/
def codes (s : List UInt8) : List Nat := (characters s).map Characters.code

/-- A value matches a pattern, unless one of the two is absent. -/
def matching (toPattern : List Nat → Pattern) (pattern v : Datum) : Calculated Datum :=
  if longestPattern < (bytes pattern).length then .error .complexPattern
  else
    match textBytes? pattern, textBytes? v with
    | some p, some s => .ok (.ofBool ((toPattern (codes p)).admits (codes s)))
    | _, _ => .ok .null

/-- A value matches a pattern with `%` and `_`. The third value is the character that makes the next
one stand for itself. -/
def like (pattern v : Datum) (escape : Option Datum) : Calculated Datum :=
  match escape with
  | none => matching (Pattern.ofLike none) pattern v
  | some e =>
    if longestPattern < (bytes pattern).length then .error .complexPattern
    else
      match (textBytes? e).map codes with
      | none => .ok .null
      | some [c] => matching (Pattern.ofLike (some c)) pattern v
      | some _ => .error .wrongEscape

/-- A value matches a pattern with `*`, `?` and brackets. -/
def glob (pattern v : Datum) : Calculated Datum :=
  matching (fun s => Pattern.ofGlob s.length s) pattern v

/-! ## Texts as numbers and bytes -/

/-- The digits of bytes, in capitals. -/
def digitsOf (b : List UInt8) : List UInt8 :=
  (Text.Hex.encode b).map fun c => UInt8.ofNat c.toUpper.toNat

/-- The value of a byte that is a hexadecimal digit. -/
def digit? (b : UInt8) : Option Nat := Text.Hex.digit? (Char.ofNat b.toNat)

/-- The bytes that pairs of digits stand for, between which some characters may stand. -/
def undigits (passed : List Nat) : Nat → List (List UInt8) → Option (List UInt8)
  | 0, _ => some []
  | _, [] => some []
  | n + 1, c :: rest =>
    match c with
    | [b] =>
      match digit? b, rest with
      | some high, [d] :: rest =>
        (digit? d).bind fun low =>
          (undigits passed n rest).map (UInt8.ofNat (16 * high + low) :: ·)
      | some _, _ => none
      | none, rest =>
        if passed.contains (Characters.code [b]) then undigits passed n rest else none
    | c => if passed.contains (Characters.code c) then undigits passed n rest else none

/-- The bytes that a text of digits stands for. -/
def unhexed (v : Datum) (passed : Option Datum) : Datum :=
  match textBytes? v, passed.elim (some []) textBytes? with
  | some s, some passed =>
    let s := characters s
    (undigits (Characters.codes passed) s.length s).elim .null .blob
  | _, _ => .null

/-- The bytes of the character of a code; one that is no code is replaced. -/
def characterOf (v : Datum) : List UInt8 :=
  let n := (toInteger v).toInt
  Characters.encode (if n < 0 ∨ 0x10ffff < n then Characters.replacement else n.toNat)

/-- A byte string of zeros. -/
def zeros (v : Datum) : Calculated Datum :=
  let n := (toInteger v).toInt
  if greatestLength < n then .error .tooBig else .ok (.blob (List.replicate n.toNat 0))

/-- The texts of all values, one after the other, absent ones left out, with another text in
between. -/
def assembled (gap : List UInt8) (values : List Datum) : Datum :=
  .text (gap.intercalate (values.filterMap textBytes?))

/-- The codes of letters by their sound: vowels have none, and what is no letter ends nothing. -/
def soundOf (b : UInt8) : Nat :=
  match (Char.ofNat (lowerByte b).toNat) with
  | 'b' => 1 | 'f' => 1 | 'p' => 1 | 'v' => 1
  | 'c' => 2 | 'g' => 2 | 'j' => 2 | 'k' => 2 | 'q' => 2 | 's' => 2 | 'x' => 2 | 'z' => 2
  | 'd' => 3 | 't' => 3
  | 'l' => 4
  | 'm' => 5 | 'n' => 5
  | 'r' => 6
  | _ => 0

/-- The sounds of letters, where the same sound is not repeated; without one in between it may be
repeated. -/
def sounds : Nat → Nat → List UInt8 → List Nat
  | 0, _, _ => []
  | _, _, [] => []
  | n + 1, last, b :: rest =>
    let sound := soundOf b
    if 0 < sound then
      if sound ≠ last then sound :: sounds n sound rest else sounds (n + 1) last rest
    else sounds (n + 1) 0 rest

/-- A letter of ASCII. -/
def isLetter (b : UInt8) : Bool := (Char.ofNat b.toNat).isAlpha && decide (b.toNat < 128)

/-- A text by its sound: its first letter and three digits. -/
def soundex (v : Datum) : Datum :=
  let s := (untilZero (bytes v)).dropWhile fun b => !isLetter b
  match s with
  | [] => .ofText "?000"
  | b :: rest =>
    let found := sounds 3 (soundOf b) rest
    let digits := found ++ List.replicate (3 - found.length) 0
    .text (upperByte b :: digits.map fun n => UInt8.ofNat (48 + n))

/-- The functions. -/
def routines : List Routine :=
  [.unary "length" lengthOf,
    .unary "octet_length" fun v => if v.isNull then .null else .ofNat (bytes v).length,
    .unary "lower" (onBytes fun s => .text (s.map lowerByte)),
    .unary "upper" (onBytes fun s => .text (s.map upperByte)),
    .unary "hex" fun v => .text (digitsOf (bytes v)),
    .total "unhex" 1 (some 2) fun c => unhexed (c.argument 0) (c.argument? 1),
    .unary "unicode" (onBytes fun s => (codes s).head?.elim .null .ofNat),
    .total "char" 0 none fun c => .text (c.values.flatMap characterOf),
    .failing "zeroblob" 1 (some 1) fun c => zeros (c.argument 0),
    .unary "soundex" soundex,
    .total "trim" 1 (some 2) fun c => trimmed true true (c.argument 0) (c.argument? 1),
    .total "ltrim" 1 (some 2) fun c => trimmed true false (c.argument 0) (c.argument? 1),
    .total "rtrim" 1 (some 2) fun c => trimmed false true (c.argument 0) (c.argument? 1),
    .total "instr" 2 (some 2) fun c => placeIn (c.argument 0) (c.argument 1),
    .total "substr" 2 (some 3) fun c => portionOf (c.argument 0) (c.argument 1) (c.argument? 2),
    .total "substring" 2 (some 3) fun c =>
      portionOf (c.argument 0) (c.argument 1) (c.argument? 2),
    .total "replace" 3 (some 3) fun c => replaced (c.argument 0) (c.argument 1) (c.argument 2),
    .failing "like" 2 (some 3) fun c => like (c.argument 0) (c.argument 1) (c.argument? 2),
    .failing "glob" 2 (some 2) fun c => glob (c.argument 0) (c.argument 1),
    .total "concat" 1 none fun c => assembled [] c.values,
    .total "concat_ws" 2 none fun c =>
      (textBytes? (c.argument 0)).elim .null fun gap => assembled gap (c.values.drop 1)]

end PooledSql.Sqlite.Texts
