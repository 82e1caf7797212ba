import PooledSql.Sqlite.Function.Formatted
import PooledSql.Sqlite.Json.Binary
import PooledSql.Sqlite.Json.Path
import PooledSql.Sqlite.Json.Writer
import PooledSql.Text.Utf8

/-!
# Functions of JSON values

JSON values are taken as texts or as bytes, and given as the one or the other. Parts of them are
given as values of their own: numbers and texts as such, truth values as one and zero. A text that
is known to be a JSON value is taken for that value where another text would be a JSON text.
-/

namespace PooledSql.Sqlite.Documents

open Characters (ascii untilZero)
open Json (Change Miss Written)

/-! ## Taking values -/

/-- The bytes of a value as a text, unless it is absent. -/
def textOf? (v : Datum) : Option (List UInt8) := Calculation.textBytes? v

/-- A text that is a path or a label: it ends with its first zero byte. -/
def pathOf? (v : Datum) : Option (List UInt8) := (textOf? v).map untilZero

/-- What a value is read as: the JSON value, unless it is none, and whether it is a standard text.
-/
def readDatum (v : Datum) : Option Json × Bool :=
  let binary? : Option Json :=
    match v with
    | .blob s => Json.decode? s
    | _ => none
  match binary? with
  | some j => (some j, true)
  | none =>
    let outcome := Json.read ((textOf? v).getD [])
    (outcome.value?, outcome.isStandard)

/-- The JSON value that a value stands for; nothing if it is absent. -/
def taken (v : Datum) : Calculated (Option Json) :=
  if v.isNull then .ok none
  else
    match (readDatum v).1 with
    | some j => .ok (some j)
    | none => .error .malformedJson

/-- A real as a JSON number with fifteen digits. -/
def realNumber (d : Double) : List UInt8 :=
  let field : Formatted.Field := { isExtended := true, isZeroed := true, precision := some 15 }
  (Formatted.realText field .general 'e' d).map fun c => UInt8.ofNat c.toNat

/-- A value as the text of a JSON value. -/
def asDocument (v : Tagged) : Calculated (List UInt8) :=
  match v.value with
  | .null => .ok (ascii "null")
  | .integer n => .ok (ascii (toString n.toInt))
  | .real d => .ok (realNumber d)
  | .text s => .ok (if v.isJson then s else Json.quoted s)
  | .blob s =>
    match Json.decode? s with
    | some j => (j.write).elim (.error .malformedJson) .ok
    | none => .error .bytesInJson

/-- A real as a JSON number that is put into a JSON value. -/
def realSpelling (d : Double) : List UInt8 :=
  if d.isFinite then ascii (realText d) else ascii (if d.isNegative then "-9e999" else "9e999")

/-- A value as a JSON value that is put into another one. -/
def asPart (v : Tagged) : Calculated Json :=
  match v.value with
  | .null => .ok .null
  | .integer n => .ok (.number .integer (ascii (toString n.toInt)))
  | .real d => .ok (.number .decimal (realSpelling d))
  | .text s =>
    if v.isJson then (Json.read s).value?.elim (.error .malformedJson) .ok
    else .ok (.text ⟨.raw, s⟩)
  | .blob s => (Json.decode? s).elim (.error .bytesInJson) .ok

/-! ## Giving values -/

/-- How a JSON value is given. -/
inductive Output
  | text
  | binary
deriving DecidableEq

/-- What JSON values are written as. -/
def written (j : Json) : Calculated (List UInt8) := j.write.elim (.error .malformedJson) .ok

/-- A JSON value, as text or as bytes. -/
def given (o : Output) (j : Json) : Calculated Tagged :=
  match o with
  | .text => do return ⟨.text (← written j), true⟩
  | .binary => .ok ⟨.blob j.encode, false⟩

/-- The text of a JSON value, as it is or as bytes. -/
def givenText (o : Output) (s : List UInt8) : Tagged :=
  match o with
  | .text => ⟨.text s, true⟩
  | .binary => ⟨.blob (((Json.read s).value?.map Json.encode).getD []), false⟩

/-- A number with a point or an exponent as a value. -/
def realOf (s : List UInt8) : Calculated Datum :=
  match Numeral.read? (Datum.letters s) with
  | some n => .ok (Calculation.realResult n.toDouble)
  | none => .error .malformedJson

/-- An integer as a value; one that is too large is a real. -/
def integerOf (s : List UInt8) : Calculated Datum :=
  match Numeral.read? (Datum.letters s) with
  | none => .error .malformedJson
  | some n => n.toInt64?.elim (realOf s) fun k => .ok (.integer k)

/-- A number of base sixteen as a value. -/
def hexOf (s : List UInt8) : Calculated Datum :=
  let isNegative := s.head? = some (Json.byte '-')
  let digits := (if isNegative then s.drop 1 else s).drop 2
  let n := Json.hexValue digits
  if digits.isEmpty || !digits.all Json.isHex then .error .malformedJson
  else if Number.twoTo 64 ≤ n then .error .malformedJson
  else
    let signed : Int := if isNegative then -(n : Int) else n
    .ok (if Number.twoTo 63 ≤ n then .real (Double.ofInt signed) else .ofInt signed)

/-- A JSON value as a value, where arrays and objects are given as JSON values. -/
def toDatum (o : Output) : Json → Calculated Tagged
  | .null => .ok ⟨.null, false⟩
  | .truth b => .ok ⟨.ofBool b, false⟩
  | .number .integer s => (integerOf s).map fun v => ⟨v, false⟩
  | .number .hexadecimal s => (hexOf s).map fun v => ⟨v, false⟩
  | .number _ s => (realOf s).map fun v => ⟨v, false⟩
  | .text t => .ok ⟨.text t.content, false⟩
  | .broken => .error .malformedJson
  | j => given o j

/-! ## Following paths -/

/-- A path as it is reported. -/
def quotedPath (path : List UInt8) : String :=
  String.ofList (Text.Utf8.repair (Formatted.quoted {} 'Q' (some path)))

/-- A path is no path. -/
def badPath (path : List UInt8) : CalculationFault := .badPath (quotedPath path)

/-- What was missed, where it is a fault that the path leads nowhere. -/
def faultOf (path : List UInt8) : Miss → CalculationFault
  | .broken => .malformedJson
  | _ => badPath path

/-- What a path from the root leads to, if there is something. -/
def lookup (path : List UInt8) (j : Json) : Calculated (Option Json) :=
  match path with
  | 36 :: steps =>
    match Json.Path.find steps j with
    | .ok j => .ok (some j)
    | .error .absent => .ok none
    | .error miss => .error (faultOf path miss)
  | _ => .error (badPath path)

/-- A short path in full: an index, a label, or an index in brackets. -/
def fullPath (isInteger : Bool) (path : List UInt8) : List UInt8 :=
  let isWord := path.all fun b => Json.isLetter b || Json.isDigit b || b == Json.byte '_'
  if path.head? = some 36 then path
  else if isInteger then
    ascii "$[" ++ (if path.head? = some 45 then [35] else []) ++ path ++ [93]
  else if isWord then ascii "$." ++ path
  else if path.head? = some 91 ∧ 3 ≤ path.length ∧ path.getLast? = some 93 then 36 :: path
  else ascii "$.\"" ++ path ++ [34]

/-- What a short path leads to, if there is something. The path is reported as it was given. -/
def lookupShort (v : Datum) (path : List UInt8) (j : Json) : Calculated (Option Json) :=
  let isInteger :=
    match v with
    | .integer _ => true
    | _ => false
  match lookup (fullPath isInteger path) j with
  | .error (.badPath _) => .error (badPath path)
  | r => r

/-- The parts that some paths lead to, as texts; nothing if a path is absent. -/
def partTexts (j : Json) : List Datum → Calculated (Option (List (List UInt8)))
  | [] => .ok (some [])
  | v :: rest =>
    match pathOf? v with
    | none => .ok none
    | some path => do
      let part ← lookup path j
      match ← partTexts j rest with
      | none => return none
      | some parts => return some ((← written (part.getD .null)) :: parts)

/-! ## Functions -/

/-- A function that gives a JSON value. -/
def giving (name : String) (fewest : Nat) (most : Option Nat) (run : Call → Calculated Tagged) :
    Routine :=
  ⟨name, fewest, most, .strict run, true, false⟩

/-- An absent value. -/
def nothing : Calculated Tagged := .ok ⟨.null, false⟩

/-- A function of the JSON value that the first argument stands for. -/
def onFirst (c : Call) (f : Json → Calculated Tagged) : Calculated Tagged := do
  match ← taken (c.argument 0) with
  | none => nothing
  | some j => f j

/-- Parts of a value: one as it is, several in an array. -/
def extract (o : Output) (c : Call) : Calculated Tagged :=
  if c.count < 2 then nothing
  else onFirst c fun j => do
    if c.count = 2 then
      match pathOf? (c.argument 1) with
      | none => nothing
      | some path =>
        match ← lookup path j with
        | none => nothing
        | some part => toDatum o part
    else
      match ← partTexts j (c.values.drop 1) with
      | none => nothing
      | some parts => return givenText o (91 :: Json.separated [44] parts ++ [93])

/-- A part of a value that a short path leads to. -/
def arrow (give : Json → Calculated Tagged) (c : Call) : Calculated Tagged :=
  onFirst c fun j => do
    match pathOf? (c.argument 1) with
    | none => nothing
    | some path =>
      match ← lookupShort (c.argument 1) path j with
      | none => nothing
      | some part => give part

/-- Several values as one array. -/
def array (o : Output) (c : Call) : Calculated Tagged := do
  let items ← c.arguments.mapM asDocument
  return givenText o (91 :: Json.separated [44] items ++ [93])

/-- Labels and values as the members of an object. A label that is no text is reported before a
value that cannot be taken. -/
def members : List Tagged → Calculated (List (List UInt8))
  | label :: v :: rest =>
    match label.value with
    | .text s =>
      match asDocument v, members rest with
      | _, .error (.labelKind name) => .error (.labelKind name)
      | .error e, _ => .error e
      | .ok v, more => do return (Json.quoted s ++ 58 :: v) :: (← more)
    | _ => .error (.labelKind "json_object")
  | _ => .ok []

/-- Labels and values as one object. -/
def object (o : Output) (c : Call) : Calculated Tagged :=
  if c.count % 2 = 1 then .error (.unpairedLabels "json_object")
  else do
    let parts ← members c.arguments
    return givenText o (123 :: Json.separated [44] parts ++ [125])

/-- How many items an array has. -/
def arrayLength (c : Call) : Calculated Tagged :=
  onFirst c fun j => do
    let size : Json → Datum
      | .array items => .ofNat items.length
      | _ => .integer 0
    match c.argument? 1 with
    | none => return ⟨size j, false⟩
    | some v =>
      match pathOf? v with
      | none => nothing
      | some path => return ⟨((← lookup path j).map size).getD .null, false⟩

/-- The name of the kind of a value. -/
def kind (c : Call) : Calculated Tagged :=
  onFirst c fun j => do
    let name (j : Json) : Datum := .ofText j.kindName
    match c.argument? 1 with
    | none => return ⟨name j, false⟩
    | some v =>
      match pathOf? v with
      | none => nothing
      | some path => return ⟨((← lookup path j).map name).getD .null, false⟩

/-- What paths that are followed by values change, one after the other. -/
def changedAll (toChange : Json → Change) (j : Json) : List Tagged → Calculated Json
  | path :: v :: rest =>
    match pathOf? path.value with
    | none => changedAll toChange j rest
    | some path =>
      match path with
      | 36 :: steps => do
        let part ← asPart v
        match Json.Path.change steps (toChange part) j with
        | .ok changed => changedAll toChange (changed.getD j) rest
        | .error .absent => changedAll toChange j rest
        | .error miss => .error (faultOf path miss)
      | path => .error (badPath path)
  | _ => .ok j

/-- A value with parts put into it. -/
def changed (o : Output) (name : String) (toChange : Json → Change) (c : Call) :
    Calculated Tagged :=
  if c.count = 0 then nothing
  else if c.count % 2 = 0 then .error (.unpairedPaths name)
  else onFirst c fun j => do given o (← changedAll toChange j (c.arguments.drop 1))

/-- A value without what paths lead to, one after the other; nothing if it is removed itself. -/
def removedAll (j : Json) : List Datum → Calculated (Option Json)
  | [] => .ok (some j)
  | v :: rest =>
    match pathOf? v with
    | none => .ok none
    | some path =>
      match path with
      | 36 :: steps =>
        match Json.Path.change steps .remove j with
        | .ok (some j) => removedAll j rest
        | .ok none => .ok none
        | .error .absent => removedAll j rest
        | .error miss => .error (faultOf path miss)
      | path => .error (badPath path)

/-- A value without some parts. -/
def removed (o : Output) (c : Call) : Calculated Tagged :=
  if c.count = 0 then nothing
  else onFirst c fun j => do
    match ← removedAll j (c.values.drop 1) with
    | none => nothing
    | some j => given o j

/-- The bytes of a JSON value, which stay as they are. -/
def binary? (v : Datum) : Option Datum :=
  match v with
  | .blob s => if Json.isBinary s then some v else none
  | _ => none

/-- A value as bytes. -/
def toBinary (c : Call) : Calculated Tagged :=
  match binary? (c.argument 0) with
  | some v => .ok ⟨v, false⟩
  | none => removed .binary c

/-- A value with another one merged into it. -/
def patched (o : Output) (c : Call) : Calculated Tagged :=
  onFirst c fun j => do
    match ← taken (c.argument 1) with
    | none => nothing
    | some patch => given o (j.merged patch)

/-- A value on lines. -/
def onLines (c : Call) : Calculated Tagged :=
  onFirst c fun j =>
    let indent := ((c.argument? 1).bind pathOf?).getD (ascii "    ")
    match j.writeLines indent 0 with
    | some s => .ok ⟨.text s, false⟩
    | none => .error .malformedJson

/-- What passes as a JSON value. -/
structure Accepted where
  standardText : Bool
  text : Bool
  bytes : Bool
  checkedBytes : Bool

/-- What a number says that passes, by its bits. -/
def Accepted.ofBits (n : Nat) : Accepted :=
  ⟨n % 2 == 1, n / 2 % 2 == 1, n / 4 % 2 == 1, n / 8 % 2 == 1⟩

/-- A value passes as a JSON value. -/
def isValid (a : Accepted) (v : Datum) : Bool :=
  let asText : Bool :=
    let (j, isStandard) := readDatum v
    j.isSome && (a.text || (a.standardText && isStandard))
  match v with
  | .blob s =>
    if Json.isBinary s then a.bytes || (a.checkedBytes && (Json.fault s).isNone) else asText
  | _ => asText

/-- Whether a value passes as a JSON value. -/
def valid (c : Call) : Calculated Datum :=
  let n := (c.argument? 1).elim 1 fun v => (Calculation.toInteger v).toInt
  if n < 1 ∨ 15 < n then .error .flagRange
  else if (c.argument 0).isNull then .ok .null
  else .ok (.ofBool (isValid (.ofBits n.toNat) (c.argument 0)))

/-- The place of the character where a text is no JSON value, counted from one. -/
def errorPlace (v : Datum) : Datum :=
  let binary? : Option Nat :=
    match v with
    | .blob s => if Json.isBinary s then some ((Json.fault s).getD 0) else none
    | _ => none
  match binary?, textOf? v with
  | some n, _ => .ofNat n
  | none, none => .null
  | none, some s =>
    let outcome := Json.read s
    if outcome.value?.isSome then .integer 0
    else
      let before := (untilZero s).take outcome.index
      .ofNat ((before.filter fun b => !Characters.isTail b).length + 1)

/-- The functions that give a JSON value as text or as bytes. -/
def bothOutputs (name : String) (fewest : Nat) (most : Option Nat)
    (run : Output → Call → Calculated Tagged) : List Routine :=
  [giving ("json" ++ name) fewest most (run .text),
    giving ("jsonb" ++ name) fewest most (run .binary)]

/-- The functions. -/
def routines : List Routine :=
  [giving "json" 1 (some 1) (removed .text), giving "jsonb" 1 (some 1) toBinary] ++
  bothOutputs "_array" 0 none array ++
  bothOutputs "_object" 0 none object ++
  bothOutputs "_extract" 0 none extract ++
  bothOutputs "_remove" 0 none removed ++
  bothOutputs "_patch" 2 (some 2) patched ++
  bothOutputs "_insert" 0 none (fun o => changed o "json_insert" .insert) ++
  bothOutputs "_replace" 0 none (fun o => changed o "json_replace" .replace) ++
  bothOutputs "_set" 0 none (fun o => changed o "json_set" .put) ++
  [giving "->" 2 (some 2) (arrow (given .text)),
    giving "->>" 2 (some 2)
      (arrow fun j => do return { ← toDatum .text j with isJson := false }),
    giving "json_array_length" 1 (some 2) arrayLength,
    giving "json_type" 1 (some 2) kind,
    giving "json_pretty" 1 (some 2) onLines,
    giving "json_quote" 1 (some 1) fun c => do
      return ⟨.text (← asDocument (c.arguments[0]?.getD ⟨.null, false⟩)), true⟩,
    .failing "json_valid" 1 (some 2) valid,
    .unary "json_error_position" errorPlace]

end PooledSql.Sqlite.Documents
