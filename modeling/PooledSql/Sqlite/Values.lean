import PooledSql.Sqlite.Datum

/-!
# Values in columns

A column has an affinity, by which it converts the values it is given, and a collation, by which it
compares texts. Both go along with the column's values into comparisons. Numbers come before texts,
and texts before byte strings.
-/

namespace PooledSql.Sqlite

open Number (twoTo)

/-! ## Affinity -/

/-- What a column prefers to hold. -/
inductive Affinity
  | blob
  | text
  | numeric
  | integer
  | real
deriving DecidableEq, Repr

namespace Affinity

/-- The syllable stands somewhere in the text. -/
def mentions (syllable : List Char) : List Char → Bool
  | [] => syllable.isEmpty
  | c :: rest => syllable.isPrefixOf (c :: rest) || mentions syllable rest

/-- The affinity by the syllable that a text starts with, if there is one, or else the one that was
found so far. -/
def next (found : Affinity) (text : List Char) : Affinity :=
  let starts (syllables : List String) : Bool :=
    syllables.any fun s => s.toList.isPrefixOf text
  if starts ["char", "clob", "text"] then .text
  else if starts ["blob"] && (found == .numeric || found == .real) then .blob
  else if starts ["real", "floa", "doub"] && found == .numeric then .real
  else found

/-- The affinity by the syllables of a type other than `int`, from the one that was found so far. -/
def scan (found : Affinity) : List Char → Affinity
  | [] => found
  | c :: rest => scan (found.next (c :: rest)) rest

/-- The affinity of a declared type. -/
def ofType (type : String) : Affinity :=
  let type := type.toList.map Char.toLower
  if type.isEmpty then .blob
  else if mentions "int".toList type then .integer
  else scan .numeric type

/-- Converts texts to numbers. -/
def isNumeric : Affinity → Bool
  | .blob => false
  | .text => false
  | _ => true

end Affinity

/-- The integer that a real is, if it is one strictly between the least and the greatest. -/
def integral? (d : Double) : Option Int64 :=
  d.toInt?.bind fun n =>
    if -(twoTo 63 : Int) < n ∧ n < twoTo 63 - 1 then some (Int64.ofInt n) else none

/-- A real as an integer, where it is one. -/
def asInteger (d : Double) : Datum :=
  match integral? d with
  | some n => .integer n
  | none => .real d

/-- A text as a number, where it is one: as an integer if nothing is lost by that. -/
def numericText (bytes : List UInt8) : Datum :=
  match Numeral.read? (Datum.letters bytes) with
  | none => .text bytes
  | some n =>
    match n.toInt64? with
    | some k => .integer k
    | none => asInteger n.toDouble

/-- A value as a column for texts takes it. -/
def asText : Datum → Datum
  | .integer n => .ofText (toString n.toInt)
  | .real d => .ofText (realText d)
  | v => v

/-- A value as a column for numbers takes it. -/
def asNumber : Datum → Datum
  | .text s => numericText s
  | .real d => asInteger d
  | v => v

/-- The value that a column holds when it is given another. A column for reals holds integers as
reals, whereby a zero loses its sign. -/
def Affinity.hold (a : Affinity) (v : Datum) : Datum :=
  match a with
  | .blob => v
  | .text => asText v
  | .real =>
    match asNumber v with
    | .integer n => .real (Double.ofInt n.toInt)
    | v => v
  | _ => asNumber v

/-! ## Order -/

/-- How texts are compared. -/
inductive Collation
  /-- By bytes. -/
  | binary
  /-- Letters of ASCII in either case are the same. -/
  | noCase
  /-- Blanks at the end make no difference. -/
  | rightTrimmed
deriving DecidableEq, Repr

/-- The collation of a name. -/
def Collation.named? (name : String) : Option Collation :=
  [("BINARY", Collation.binary), ("NOCASE", .noCase), ("RTRIM", .rightTrimmed)].lookup
    (name.map Char.toUpper)

/-- Two byte strings by their first difference; one comes before those that it begins. -/
def compareBytes : List UInt8 → List UInt8 → Ordering
  | [], [] => .eq
  | [], _ :: _ => .lt
  | _ :: _, [] => .gt
  | a :: r, b :: s =>
    match compare a b with
    | .eq => compareBytes r s
    | o => o

/-- A small letter of ASCII in place of a capital one. -/
def lowered (b : UInt8) : UInt8 := if 65 ≤ b ∧ b ≤ 90 then b + 32 else b

/-- Two texts by their first difference, where letters of ASCII in either case are the same. What
follows a zero byte makes a difference only by its length. -/
def compareLowered (a b : List UInt8) : Ordering :=
  let rec go : List UInt8 → List UInt8 → Ordering
    | x :: r, y :: s =>
      match compare (lowered x) (lowered y) with
      | .eq => if x = 0 then compare a.length b.length else go r s
      | o => o
    | _, _ => compare a.length b.length
  go a b

/-- How two texts stand to each other. -/
def Collation.compare (c : Collation) (a b : List UInt8) : Ordering :=
  let unpadded (s : List UInt8) : List UInt8 := (s.reverse.dropWhile (· == 32)).reverse
  match c with
  | .binary => compareBytes a b
  | .noCase => compareLowered a b
  | .rightTrimmed => compareBytes (unpadded a) (unpadded b)

/-- How two values stand to each other: numbers by size, texts by a collation, byte strings by their
bytes, and values of different kinds by kind. There is no answer if either is absent. -/
def order (c : Collation) (a b : Datum) : Option Ordering :=
  match a, b with
  | .null, _ => none
  | _, .null => none
  | .integer m, .integer n => some (compare m.toInt n.toInt)
  | .integer m, .real d => some (Double.compareInt m.toInt d)
  | .real d, .integer n => some (Double.compareInt n.toInt d).swap
  | .real d, .real e => some (compare d.rank e.rank)
  | .text s, .text t => some (c.compare s t)
  | .blob s, .blob t => some (compareBytes s t)
  | .text _, .blob _ => some .lt
  | .blob _, .text _ => some .gt
  | .blob _, _ => some .gt
  | .text _, _ => some .gt
  | _, _ => some .lt

/-! ## Values in comparisons -/

/-- A value, with the affinity and the collation of where it comes from, if these have any. -/
structure Cell where
  value : Datum
  affinity : Option Affinity := none
  collation : Option Collation := none
deriving DecidableEq, Repr

namespace Cell

/-- The cell of a literal. -/
def literal (v : Value) : Cell := ⟨.ofValue v, none, none⟩

/-- Two values as they are compared: as numbers if one side has a numeric affinity, and as texts if
one side has that of texts and the other side has none. -/
def convert (a b : Cell) : Datum × Datum :=
  let isNumeric (x : Cell) : Bool := (x.affinity.map Affinity.isNumeric).getD false
  let toNumber : Datum → Datum
    | .text s => numericText s
    | v => v
  if isNumeric a || isNumeric b then (toNumber a.value, toNumber b.value)
  else
    match a.affinity, b.affinity with
    | some .text, none => (a.value, asText b.value)
    | none, some .text => (asText a.value, b.value)
    | _, _ => (a.value, b.value)

/-- How two cells stand to each other. The collation is that of the first one that has one. -/
def order (a b : Cell) : Option Ordering :=
  let (x, y) := convert a b
  Sqlite.order (a.collation.getD (b.collation.getD .binary)) x y

end Cell

end PooledSql.Sqlite
