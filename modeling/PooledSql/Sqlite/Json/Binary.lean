import PooledSql.Sqlite.Json.Reader

/-!
# JSON as bytes

A JSON value can be kept as bytes. Each value has a header with its kind and the number of bytes
that follow; small numbers are part of the first byte, greater ones take bytes of their own. The
bytes of an array are those of its items, and the bytes of an object are those of its labels and
values in turn.
-/

namespace PooledSql.Sqlite.Json

/-! ## Writing -/

/-- The number of the form of a number. -/
def NumberForm.kind : NumberForm → Nat
  | .integer => 3
  | .hexadecimal => 4
  | .decimal => 5
  | .looseDecimal => 6

/-- The number of the form of a text. -/
def TextForm.kind : TextForm → Nat
  | .plain => 7
  | .escaped => 8
  | .loose => 9
  | .raw => 10

/-- The bytes of a number, the greatest one first. -/
def bigEndian : Nat → Nat → List UInt8
  | 0, _ => []
  | count + 1, n => bigEndian count (n / 256) ++ [UInt8.ofNat (n % 256)]

/-- A header: a kind, and the number of bytes that follow. -/
def header (kind size : Nat) : List UInt8 :=
  let first (n : Nat) : UInt8 := UInt8.ofNat (16 * n + kind)
  if size ≤ 11 then [first size]
  else if size < 256 then first 12 :: bigEndian 1 size
  else if size < 65536 then first 13 :: bigEndian 2 size
  else first 14 :: bigEndian 4 size

/-- Bytes with a header. -/
def headed (kind : Nat) (s : List UInt8) : List UInt8 := header kind s.length ++ s

/-- A text as bytes. -/
def Written.encode (t : Written) : List UInt8 := headed t.form.kind t.bytes

mutual

/-- A value as bytes. -/
def encode : Json → List UInt8
  | .null => headed 0 []
  | .truth b => headed (if b then 1 else 2) []
  | .number form spelling => headed form.kind spelling
  | .text t => t.encode
  | .array items => headed 11 (encodeItems items)
  | .object members => headed 12 (encodeMembers members)
  | .broken => []

/-- Items as bytes. -/
def encodeItems : List Json → List UInt8
  | [] => []
  | j :: rest => j.encode ++ encodeItems rest

/-- Labels and values as bytes. -/
def encodeMembers : List (Written × Json) → List UInt8
  | [] => []
  | (label, j) :: rest => label.encode ++ j.encode ++ encodeMembers rest

end

/-! ## Reading -/

/-- The number that some bytes make, the greatest one first. -/
def ofBigEndian (s : List UInt8) : Nat := s.foldl (fun n b => 256 * n + b.toNat) 0

/-- The kind of the value at the start of some bytes, what belongs to it, and the rest. -/
def unheaded? : List UInt8 → Option (Nat × List UInt8 × List UInt8)
  | [] => none
  | b :: rest =>
    let kind := b.toNat % 16
    let mark := b.toNat / 16
    let sized (skip width : Nat) : Option (Nat × List UInt8 × List UInt8) :=
      let body := rest.drop (skip + width)
      let size := ofBigEndian ((rest.drop skip).take width)
      if rest.length < skip + width ∨ !(rest.take skip).all (· == 0) ∨ body.length < size then none
      else some (kind, body.take size, body.drop size)
    if mark ≤ 11 then
      if rest.length < mark then none else some (kind, rest.take mark, rest.drop mark)
    else if mark = 12 then sized 0 1
    else if mark = 13 then sized 0 2
    else if mark = 14 then sized 0 4
    else sized 4 4

/-- The form of a text. -/
def textForm? (kind : Nat) : Option TextForm :=
  [TextForm.plain, .escaped, .loose, .raw].find? fun f => f.kind == kind

/-- The form of a number. -/
def numberForm? (kind : Nat) : Option NumberForm :=
  [NumberForm.integer, .hexadecimal, .decimal, .looseDecimal].find? fun f => f.kind == kind

/-- The values that are labels and values in turn, as members. -/
def paired : List Json → Option (List (Written × Json))
  | [] => some []
  | .text label :: j :: rest => (paired rest).map ((label, j) :: ·)
  | _ => none

/-- The values that some bytes stand for one after the other. What cannot be read is broken. -/
def decodeAll : Nat → List UInt8 → List Json
  | 0, _ => []
  | _, [] => []
  | n + 1, s =>
    match unheaded? s with
    | none => [.broken]
    | some (kind, body, rest) =>
      let j : Json :=
        match numberForm? kind, textForm? kind with
        | some form, _ => .number form body
        | _, some form => .text ⟨form, body⟩
        | _, _ =>
          if kind = 11 then .array (decodeAll n body)
          else if kind = 12 then ((paired (decodeAll n body)).map .object).getD .broken
          else if !body.isEmpty then .broken
          else if kind = 0 then .null
          else if kind = 1 then .truth true
          else if kind = 2 then .truth false
          else .broken
      j :: decodeAll n rest

/-! ## Checking -/

/-- Something is wrong at a place. -/
abbrev Fault := Option Nat

/-- The first byte that does not pass, counted from a place. -/
def faultOf (passes : UInt8 → Bool) (place : Nat) (s : List UInt8) : Fault :=
  (s.findIdx? fun b => !passes b).map (place + · + 1)

/-- What is wrong with the figures of a number with a point or an exponent, of which so much has
been seen: nothing, a point, or an exponent. -/
def figuresFault (isLoose : Bool) : Nat → Nat → Nat → List UInt8 → Except Nat Nat
  | 0, seen, _, _ => .ok seen
  | _, seen, _, [] => .ok seen
  | n + 1, seen, place, b :: rest =>
    if isDigit b then figuresFault isLoose n seen (place + 1) rest
    else if b = byte '.' then
      if 0 < seen ∨ (!isLoose ∧ rest.head?.any isDigit = false) then .error (place + 1)
      else figuresFault isLoose n 1 (place + 1) rest
    else if isIn "eE" b then
      if seen = 2 ∨ rest = [] then .error (place + 1)
      else
        match rest with
        | sign :: more =>
          if isIn "+-" sign then
            if more = [] then .error (place + 2) else figuresFault isLoose n 2 (place + 2) more
          else figuresFault isLoose n 2 (place + 1) rest
        | [] => .error (place + 1)
    else .error (place + 1)

/-- What is wrong with a number: where its value starts and where its digits start are given. -/
def numberFault (form : NumberForm) (start place : Nat) (s : List UInt8) : Fault :=
  let isNegative := s.head? = some (byte '-')
  let digits := if isNegative then s.drop 1 else s
  let at_ := if isNegative then place + 1 else place
  match form with
  | .integer => if digits = [] then some (start + 1) else faultOf isDigit at_ digits
  | .hexadecimal =>
    match digits with
    | zero :: x :: d :: rest =>
      if zero ≠ byte '0' then some (start + 1)
      else if !isIn "xX" x then some (at_ + 2)
      else faultOf isHex (at_ + 2) (d :: rest)
    | _ => some (start + 1)
  | form =>
    let isLoose := form == .looseDecimal
    if digits.length < 2 then some (start + 1)
    else
      let figures (seen skip : Nat) : Fault :=
        match figuresFault isLoose digits.length seen (at_ + skip) (digits.drop skip) with
        | .error k => some k
        | .ok 0 => some (start + 1)
        | .ok _ => none
      match digits with
      | 46 :: d :: _ => if !isLoose || !isDigit d then some (at_ + 1) else figures 1 2
      | 48 :: b :: more =>
        if isLoose then figures 0 0
        else if more = [] ∨ !isIn ".eE" b then some (at_ + 1)
        else figures 0 1
      | _ => figures 0 0

/-- What is wrong with a text in which there may be escapes. -/
def escapesFault (isLoose : Bool) : Nat → Nat → List UInt8 → Fault
  | 0, _, _ => none
  | _, _, [] => none
  | n + 1, place, b :: rest =>
    let goOn (count : Nat) : Fault :=
      escapesFault isLoose n (place + count) ((b :: rest).drop count)
    if isOrdinary b || b == 39 then goOn 1
    else if b ≠ 92 then (if isLoose then goOn 1 else some (place + 1))
    else
      match rest with
      | [] => some (place + 1)
      | c :: more =>
        if isIn "\"\\/bfnrt" c then goOn 2
        else if c = byte 'u' then (if areHex 4 more then goOn 2 else some (place + 1))
        else if !isLoose then some (place + 1)
        else
          let (code, taken) := escapedCode (n + 1) (b :: rest)
          if code = wrongCode then some (place + 1) else goOn (max taken 1)

/-- What is wrong with values that follow one another from a place on, at a depth. If labels and
values are expected in turn, it is said whether a label is next. -/
def allFault : Nat → Nat → Nat → Option Bool → List UInt8 → Fault
  | 0, place, _, _, _ => some (place + 1)
  | n + 1, place, depth, label?, s =>
    if s.isEmpty then (if label? = some false then some (place + 1) else none)
    else
      match unheaded? s with
      | none => some (place + 1)
      | some (kind, body, rest) =>
        let inner := place + (s.length - rest.length - body.length)
        let fault : Fault :=
          if label? = some true ∧ textForm? kind = none then some (place + 1)
          else if greatestDepth < depth then some (place + 1)
          else
            match numberForm? kind, textForm? kind with
            | some form, _ => numberFault form place inner body
            | _, some .plain => faultOf (fun b => isOrdinary b || b == 39) inner body
            | _, some .raw => none
            | _, some form => escapesFault (form == .loose) body.length inner body
            | _, _ =>
              if kind = 11 then allFault n inner (depth + 1) none body
              else if kind = 12 then allFault n inner (depth + 1) (some true) body
              else if 12 < kind ∨ s.length ≠ rest.length + 1 then some (place + 1)
              else none
        match fault with
        | some k => some k
        | none => allFault n (inner + body.length) depth (label?.map (!·)) rest

/-- What is wrong with the bytes of a value. -/
def fault (s : List UInt8) : Fault := allFault (2 * s.length + 2) 0 1 none s

/-- The longest value, in bytes after its header, that is checked to the end before it is taken for
one, if it starts like a text. -/
def longestChecked : Nat := 7

/-- Bytes that are taken for a value. -/
def isBinary (s : List UInt8) : Bool :=
  match s, unheaded? s with
  | b :: _, some (kind, body, []) =>
    let looksLikeText := isIn "[\x7b" b || isDigit b
    decide (kind ≤ 12) && (decide (2 < kind) || body.isEmpty) &&
      (decide (longestChecked < body.length) || !looksLikeText || (fault s).isNone)
  | _, _ => false

/-- The value that some bytes stand for, if they are taken for one. -/
def decode? (s : List UInt8) : Option Json :=
  if isBinary s then (decodeAll (2 * s.length + 2) s).head? else none

end PooledSql.Sqlite.Json
