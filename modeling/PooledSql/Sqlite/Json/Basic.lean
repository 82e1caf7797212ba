import PooledSql.Sqlite.Characters

/-!
# JSON values

A JSON value keeps the spelling of its numbers and texts: what was written one way is written the
same way again. Beside standard JSON there are the looser spellings of JSON5. A value that was found
broken among bytes keeps its place, and is reported only by what comes across it.
-/

namespace PooledSql.Sqlite

namespace Json

/-- How a number is written. -/
inductive NumberForm
  | integer
  | hexadecimal
  | decimal
  /-- With a point that lacks digits on one side. -/
  | looseDecimal
deriving DecidableEq, Repr

/-- How a text is written. -/
inductive TextForm
  /-- Just as it is. -/
  | plain
  /-- With escapes of standard JSON. -/
  | escaped
  /-- With escapes of JSON5. -/
  | loose
  /-- Just as it is, with characters that have to be escaped. -/
  | raw
deriving DecidableEq, Repr

/-- A text as it is written between its quotes. -/
structure Written where
  form : TextForm
  bytes : List UInt8
deriving DecidableEq, Repr

end Json

/-- A JSON value. -/
inductive Json
  | null
  | truth (b : Bool)
  | number (form : Json.NumberForm) (spelling : List UInt8)
  | text (t : Json.Written)
  | array (items : List Json)
  | object (members : List (Json.Written × Json))
  /-- What is no value. -/
  | broken

namespace Json

/-- The bytes of letters of ASCII. -/
def ascii (s : String) : List UInt8 := Characters.ascii s

/-- The code of a letter of ASCII. -/
def byte (c : Char) : UInt8 := UInt8.ofNat c.toNat

/-- A byte in a set of letters of ASCII. -/
def isIn (set : String) (b : UInt8) : Bool := set.toList.any fun c => byte c == b

/-- A decimal digit. -/
def isDigit (b : UInt8) : Bool := decide (48 ≤ b.toNat) && decide (b.toNat ≤ 57)

/-- A letter of ASCII. -/
def isLetter (b : UInt8) : Bool :=
  (decide (65 ≤ b.toNat) && decide (b.toNat ≤ 90)) ||
    (decide (97 ≤ b.toNat) && decide (b.toNat ≤ 122))

/-- The value of a hexadecimal digit. -/
def hexDigit? (b : UInt8) : Option Nat :=
  let n := b.toNat
  if 48 ≤ n ∧ n ≤ 57 then some (n - 48)
  else if 97 ≤ n ∧ n ≤ 102 then some (n - 87)
  else if 65 ≤ n ∧ n ≤ 70 then some (n - 55)
  else none

/-- A hexadecimal digit. -/
def isHex (b : UInt8) : Bool := (hexDigit? b).isSome

/-- A byte of a text that stands for itself between all quotes. -/
def isOrdinary (b : UInt8) : Bool := decide (32 ≤ b.toNat) && b != 34 && b != 39 && b != 92

/-- So many bytes are hexadecimal digits. -/
def areHex (count : Nat) (s : List UInt8) : Bool :=
  (s.take count).length == count && (s.take count).all isHex

/-- The number of some hexadecimal digits. -/
def hexValue (digits : List UInt8) : Nat :=
  digits.foldl (fun n b => 16 * n + (hexDigit? b).getD 0) 0

/-- The separators of lines beyond ASCII, after their first byte. -/
def endsLine : List UInt8 → Bool
  | 0x80 :: b :: _ => b == 0xa8 || b == 0xa9
  | _ => false

/-! ## Escapes -/

/-- Takes the place of the code of a character that cannot be. -/
def wrongCode : Nat := 0x99999

/-- The code of the first character of a text, and how many bytes it takes. -/
def firstCode : List UInt8 → Nat × Nat
  | [] => (0, 0)
  | b :: rest =>
    if b.toNat < 0xC0 then (b.toNat, 1)
    else
      let tail := (rest.takeWhile Characters.isTail).take 3
      (tail.foldl (fun n x => 64 * n + x.toNat % 64) (Characters.leadBits b.toNat), 1 + tail.length)

/-- How many bytes at the start are ends of lines that do not count. -/
def passedLines : Nat → List UInt8 → Nat
  | 0, _ => 0
  | n + 1, s =>
    match s with
    | 92 :: 10 :: rest => 2 + passedLines n rest
    | 92 :: 13 :: 10 :: rest => 3 + passedLines n rest
    | 92 :: 13 :: rest => 2 + passedLines n rest
    | 92 :: 0xe2 :: rest => if endsLine rest then 4 + passedLines n (rest.drop 2) else 0
    | _ => 0

/-- The code that an escape stands for, and how many bytes it takes. -/
def escapedCode : Nat → List UInt8 → Nat × Nat
  | 0, s => (wrongCode, s.length)
  | n + 1, s =>
    match s with
    | _ :: c :: rest =>
      let size := s.length
      match Char.ofNat c.toNat with
      | 'u' =>
        if size < 6 then (wrongCode, size)
        else
          let high := hexValue (rest.take 4)
          let more := rest.drop 4
          let low := hexValue ((more.drop 2).take 4)
          if high / 1024 = 0xd800 / 1024 ∧ 12 ≤ size ∧ more.take 2 = ascii "\\u" ∧
              low / 1024 = 0xdc00 / 1024 then
            (high % 1024 * 1024 + low % 1024 + 0x10000, 12)
          else (high, 6)
      | 'b' => (8, 2)
      | 'f' => (12, 2)
      | 'n' => (10, 2)
      | 'r' => (13, 2)
      | 't' => (9, 2)
      | 'v' => (11, 2)
      | '0' => (if rest.head?.any isDigit then wrongCode else 0, 2)
      | 'x' => if size < 4 then (wrongCode, size) else (hexValue (rest.take 2), 4)
      | _ =>
        if isIn "'\"/\\" c then (c.toNat, 2)
        else if c = 0xe2 ∨ c = 13 ∨ c = 10 then
          let passed := passedLines size s
          let rest := s.drop passed
          if passed = 0 then (wrongCode, size)
          else if rest = [] then (0, size)
          else if rest.head? = some 92 then
            let (code, taken) := escapedCode n rest
            (code, passed + taken)
          else
            let (code, taken) := firstCode rest
            (code, passed + taken)
        else (wrongCode, 2)
    | s => (wrongCode, s.length)

/-- The codes of a text with escapes. -/
def escapedCodes : Nat → List UInt8 → List Nat
  | 0, _ => []
  | _, [] => []
  | n + 1, b :: rest =>
    let (code, taken) := if b = 92 then escapedCode (n + 1) (b :: rest) else firstCode (b :: rest)
    code :: escapedCodes n ((b :: rest).drop (max taken 1))

/-- The bytes of the character of a code that an escape stood for. -/
def encoded (code : Nat) : List UInt8 :=
  let tail (n : Nat) : UInt8 := UInt8.ofNat (0x80 + n % 64)
  if code ≤ 0x7f then [UInt8.ofNat code]
  else if code ≤ 0x7ff then [UInt8.ofNat (0xc0 + code / 64), tail code]
  else if code < 0x10000 then [UInt8.ofNat (0xe0 + code / 4096), tail (code / 64), tail code]
  else if code = wrongCode then []
  else
    [UInt8.ofNat (0xf0 + code / 262144), tail (code / 4096), tail (code / 64), tail code]

/-- A text with its escapes resolved. -/
def resolved : Nat → List UInt8 → List UInt8
  | 0, _ => []
  | _, [] => []
  | n + 1, b :: rest =>
    if b = 92 then
      let (code, taken) := escapedCode (n + 1) (b :: rest)
      encoded code ++ resolved n ((b :: rest).drop (max taken 1))
    else b :: resolved n rest

namespace Written

/-- No escapes are in it. -/
def isRaw (t : Written) : Bool := t.form == .plain || t.form == .raw

/-- The text that is meant. -/
def content (t : Written) : List UInt8 :=
  if t.isRaw then t.bytes else resolved (t.bytes.length + 1) t.bytes

/-- The codes of the characters that are meant, as bytes if there are no escapes. -/
def codes (t : Written) : List Nat :=
  let rec plain : Nat → List UInt8 → List Nat
    | 0, _ => []
    | _, [] => []
    | n + 1, b :: rest =>
      let (code, taken) := firstCode (b :: rest)
      code :: plain n ((b :: rest).drop (max taken 1))
  if t.isRaw then plain t.bytes.length t.bytes else escapedCodes t.bytes.length t.bytes

/-- Two labels are the same. Texts with escapes are compared up to a zero. -/
def isSame (a b : Written) : Bool :=
  if a.isRaw && b.isRaw then a.bytes == b.bytes
  else a.codes.takeWhile (· != 0) == b.codes.takeWhile (· != 0)

end Written

/-! ## Kinds -/

/-- The name of the kind of a value. -/
def kindName : Json → String
  | .null => "null"
  | .truth true => "true"
  | .truth false => "false"
  | .number .integer _ => "integer"
  | .number .hexadecimal _ => "integer"
  | .number _ _ => "real"
  | .text _ => "text"
  | .array _ => "array"
  | .object _ => "object"
  | .broken => ""

end Json

end PooledSql.Sqlite
