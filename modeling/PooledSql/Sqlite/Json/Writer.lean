import PooledSql.Sqlite.Json.Basic

/-!
# Writing JSON

Writes a JSON value in standard JSON, either without any blanks or with each item on a line of its
own. Numbers and texts keep their spelling unless it is a loose one. A broken value cannot be
written.
-/

namespace PooledSql.Sqlite.Json

/-! ## Texts -/

/-- The digit of base sixteen of a number below sixteen. -/
def hexLetter (n : Nat) : UInt8 := UInt8.ofNat (if n < 10 then 48 + n else 87 + n)

/-- A control character as an escape. -/
def controlEscape (b : UInt8) : List UInt8 :=
  match [(8, 'b'), (9, 't'), (10, 'n'), (12, 'f'), (13, 'r')].lookup b.toNat with
  | some c => [92, byte c]
  | none => ascii "\\u00" ++ [hexLetter (b.toNat / 16), hexLetter (b.toNat % 16)]

/-- A text between quotes, with escapes where they are needed. -/
def quoted (s : List UInt8) : List UInt8 :=
  34 :: s.flatMap (fun b =>
    if b = 34 ∨ b = 92 then [92, b] else if b.toNat < 32 then controlEscape b else [b]) ++ [34]

/-- The inside of a text with loose escapes in the standard spelling. -/
def tightened : Nat → List UInt8 → Option (List UInt8)
  | 0, _ => some []
  | _, [] => some []
  | n + 1, b :: rest =>
    let goOn (s : List UInt8) (count : Nat) : Option (List UInt8) :=
      (tightened n (rest.drop count)).map (s ++ ·)
    if b = 34 then goOn [92, 34] 0
    else if b.toNat < 32 then goOn (controlEscape b) 0
    else if b ≠ 92 then goOn [b] 0
    else
      match rest with
      | [] => none
      | c :: more =>
        match Char.ofNat c.toNat with
        | '\'' => goOn [39] 1
        | 'v' => goOn (ascii "\\u000b") 1
        | 'x' => if more.length < 2 then none else goOn (ascii "\\u00" ++ more.take 2) 3
        | '0' => goOn (ascii "\\u0000") 1
        | '\x0d' => goOn [] (if more.head? = some 10 then 2 else 1)
        | '\n' => goOn [] 1
        | _ =>
          if c = 0xe2 then (if endsLine more then goOn [] 3 else none)
          else goOn [b, c] 1

/-- A text as it is written in standard JSON. -/
def Written.text (t : Written) : Option (List UInt8) :=
  match t.form with
  | .plain => some (34 :: t.bytes ++ [34])
  | .escaped => some (34 :: t.bytes ++ [34])
  | .raw => some (quoted t.bytes)
  | .loose => (tightened t.bytes.length t.bytes).map fun s => 34 :: s ++ [34]

/-! ## Numbers -/

/-- The greatest number of digits of base sixteen that make an integer. -/
def mostHexDigits : Nat := 16

/-- A number of base sixteen in standard JSON. -/
def hexNumber (spelling : List UInt8) : Option (List UInt8) :=
  let (sign, digits) : List UInt8 × List UInt8 :=
    match spelling with
    | 45 :: rest => ([45], rest.drop 2)
    | 43 :: rest => ([], rest.drop 2)
    | s => ([], s.drop 2)
  if !digits.all isHex then none
  else
    let digits := digits.dropWhile (· == 48)
    if mostHexDigits < digits.length then some (sign ++ ascii "9.0e999")
    else some (sign ++ ascii (toString (hexValue digits)))

/-- A number whose point lacks digits on one side in standard JSON. -/
def filledNumber (spelling : List UInt8) : List UInt8 :=
  let (sign, s) : List UInt8 × List UInt8 :=
    match spelling with
    | 45 :: rest => ([45], rest)
    | s => ([], s)
  let rec fill : List UInt8 → List UInt8
    | [] => []
    | b :: rest =>
      if b = byte '.' ∧ rest.head?.any isDigit = false then b :: 48 :: fill rest else b :: fill rest
  sign ++ (if s.head? = some (byte '.') then [48] else []) ++ fill s

/-- A number in standard JSON. -/
def numberText (form : NumberForm) (spelling : List UInt8) : Option (List UInt8) :=
  if spelling.isEmpty then none
  else
    match form with
    | .hexadecimal => hexNumber spelling
    | .looseDecimal => some (filledNumber spelling)
    | _ => some spelling

/-! ## Values -/

/-- Texts with a separator between them. -/
def separated (separator : List UInt8) (parts : List (List UInt8)) : List UInt8 :=
  separator.intercalate parts

mutual

/-- A value in standard JSON without blanks, unless something in it is broken. -/
def write : Json → Option (List UInt8)
  | .null => some (ascii "null")
  | .truth b => some (ascii (if b then "true" else "false"))
  | .number form spelling => numberText form spelling
  | .text t => t.text
  | .array items => (writeItems items).map fun s => 91 :: separated [44] s ++ [93]
  | .object members => (writeMembers members).map fun s => 123 :: separated [44] s ++ [125]
  | .broken => none

/-- Items in standard JSON. -/
def writeItems : List Json → Option (List (List UInt8))
  | [] => some []
  | j :: rest => do return (← j.write) :: (← writeItems rest)

/-- Members in standard JSON. -/
def writeMembers : List (Written × Json) → Option (List (List UInt8))
  | [] => some []
  | (label, j) :: rest => do return ((← label.text) ++ 58 :: (← j.write)) :: (← writeMembers rest)

end

/-- A new line with so many indents. -/
def newLine (indent : List UInt8) (depth : Nat) : List UInt8 :=
  10 :: (List.replicate depth indent).flatten

/-- Parts between brackets, each on its line. -/
def onLines (indent : List UInt8) (depth : Nat) (opening closing : UInt8)
    (parts : List (List UInt8)) : List UInt8 :=
  if parts.isEmpty then [opening, closing]
  else
    let line := newLine indent (depth + 1)
    opening :: line ++ separated (44 :: line) parts ++ newLine indent depth ++ [closing]

mutual

/-- A value in standard JSON, with each item on its line. -/
def writeLines (indent : List UInt8) (depth : Nat) : Json → Option (List UInt8)
  | .array items => (itemLines indent (depth + 1) items).map (onLines indent depth 91 93)
  | .object members => (memberLines indent (depth + 1) members).map (onLines indent depth 123 125)
  | .null => write .null
  | .truth b => write (.truth b)
  | .number form spelling => numberText form spelling
  | .text t => t.text
  | .broken => none

/-- Items, each with what is in it on lines. -/
def itemLines (indent : List UInt8) (depth : Nat) : List Json → Option (List (List UInt8))
  | [] => some []
  | j :: rest => do return (← writeLines indent depth j) :: (← itemLines indent depth rest)

/-- Members, each with what is in it on lines. -/
def memberLines (indent : List UInt8) (depth : Nat) :
    List (Written × Json) → Option (List (List UInt8))
  | [] => some []
  | (label, j) :: rest => do
    return ((← label.text) ++ 58 :: 32 :: (← writeLines indent depth j)) ::
      (← memberLines indent depth rest)

end

end PooledSql.Sqlite.Json
