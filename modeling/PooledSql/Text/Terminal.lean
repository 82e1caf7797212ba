import PooledSql.Text.Utf8

/-!
# Text for terminals

Text from outside may hold characters that steer a terminal. Log lines spell the most harmful of
them out. Other output leaves them out, together with the escape sequences that begin with ESC: a
short one ends with its last letter, and one that carries a string ends with the end of the string,
if it has one. The program's own styles are sequences too, so one of them ends what a text before it
has left open.
-/

namespace PooledSql.Text

/-! ## Lines -/

/-- The lines of a text, each ended by a line feed that a carriage return may precede; the last one
needs no end. -/
def lines : List Char → List (List Char)
  | [] => []
  | '\n' :: rest => [] :: lines rest
  | '\r' :: '\n' :: rest => [] :: lines rest
  | c :: rest =>
    match lines rest with
    | [] => [[c]]
    | line :: more => (c :: line) :: more

/-- The first line of a text that is printed with a line feed after it. -/
def firstLine (s : String) : String :=
  String.ofList ((lines (s.toList ++ ['\n'])).head?.getD [])

/-! ## Spelling control characters out -/

/-- A character of a log line. -/
def visibleChar (c : Char) : List Char :=
  let hex := Nat.toDigits 16 c.toNat
  if c = '\x1b' ∨ c = '\x7f' then '\\' :: 'x' :: hex
  else if c = '\x07' ∨ c = '\x08' ∨ c = '\x0c' then '\\' :: 'x' :: '0' :: hex
  else if 0x80 ≤ c.toNat ∧ c.toNat ≤ 0x9f then "\\u\x7b".toList ++ hex ++ ['\x7d']
  else [c]

/-- A text in which the characters that steer terminals are spelled out. -/
def visible (s : String) : String := String.ofList (s.toList.flatMap visibleChar)

/-! ## Styles -/

/-- A text in a style, after which there is none. -/
def styled (style text : String) : String := "\x1b[" ++ style ++ "m" ++ text ++ "\x1b[0m"

/-- What is to be typed as it is. -/
def asLiteral : String → String := styled "1"

/-- What is wrong. -/
def asInvalid : String → String := styled "33"

/-- The word that announces an error. -/
def asError : String → String := styled "1;31"

/-- A headline. -/
def asHeadline : String → String := styled "1;4"

/-! ## Leaving escape sequences out -/

/-- Where a reader of escape sequences is. -/
inductive Steering
  /-- Not in a sequence. -/
  | none
  /-- After ESC. -/
  | escape
  /-- After ESC and a character that announces another one. -/
  | announced
  /-- In a control sequence. -/
  | control
  /-- Before the string of a device, and whether there are parameters. -/
  | device (hasParameters : Bool)
  /-- Before the string of a device, after a character that announces another one. -/
  | deviceAnnounced
  /-- In a string that only a string terminator or another sequence ends. -/
  | string
  /-- In a string that a bell ends too. -/
  | command
deriving DecidableEq, Repr

/-- The byte is in a range. -/
def within (low high : Nat) (b : UInt8) : Bool := low ≤ b.toNat && b.toNat ≤ high

/-- A control character that is a blank or a break. -/
def isBreak (b : UInt8) : Bool := within 0x09 0x0a b || within 0x0c 0x0d b

/-- A byte that is printed as it is. -/
def isPlain (b : UInt8) : Bool := isBreak b || within 0x20 0x7e b

/-- Where a reader in a sequence is after a byte that neither begins nor breaks off one. -/
def Steering.goOn (b : UInt8) : Steering → Steering
  | .none => .none
  | .escape =>
    if within 0x20 0x2f b then .announced
    else if b.toNat = 0x5b then .control
    else if b.toNat = 0x5d then .command
    else if b.toNat = 0x50 then .device false
    else if [0x58, 0x5e, 0x5f].contains b.toNat then .string
    else if within 0x30 0x7e b then .none
    else .escape
  | .announced => if within 0x30 0x7e b then .none else .announced
  | .control => if within 0x40 0x7e b then .none else .control
  | .device hasParameters =>
    if within 0x20 0x2f b then .deviceAnnounced
    else if hasParameters && within 0x3c 0x3f b then .string
    else if within 0x30 0x3f b then .device true
    else if within 0x40 0x7e b then .string
    else .device hasParameters
  | .deviceAnnounced => if within 0x30 0x7e b then .string else .deviceAnnounced
  | .string => if b.toNat = 0x9c then .none else .string
  | .command => if b.toNat = 0x07 then .none else .command

/-- Breaks are printed although they stand within the sequence. -/
def Steering.showsBreaks : Steering → Bool
  | .none | .escape | .announced | .control => true
  | .device _ | .deviceAnnounced | .string | .command => false

/-- Where a reader is after a byte, and whether the byte is text. -/
def Steering.next (b : UInt8) (s : Steering) : Steering × Bool :=
  if b.toNat = 0x1b then (.escape, false)
  else if b.toNat = 0x18 ∨ b.toNat = 0x1a then (.none, false)
  else if s = .none then (.none, isPlain b || within 0xc2 0xf4 b)
  else if isBreak b then (s, s.showsBreaks)
  else (s.goOn b, false)

/-- The second or a later byte of a character. -/
def isContinuation (b : UInt8) : Bool := within 0x80 0xbf b

/-- What is text in a whole text from a place on: text ends a sequence, and a byte within a
character is text. -/
def keepWhole (s : Steering) : List UInt8 → List UInt8
  | [] => []
  | b :: rest =>
    if isContinuation b then b :: keepWhole .none rest
    else
      let (after, kept) := s.next b
      if kept then b :: keepWhole .none rest else keepWhole after rest

/-- What is text in a stream from a place on. While there is text, the sequence that a break stands
in is only kept in mind: it goes on with the next byte that is no text, unless a character beyond
ASCII has come between. -/
def keepStream (s : Steering) (printing : Bool) : List UInt8 → List UInt8
  | [] => []
  | b :: rest =>
    if printing && within 0x80 0xff b then b :: keepStream .none true rest
    else if printing && isPlain b then b :: keepStream s true rest
    else
      let (after, kept) := s.next b
      if kept then b :: keepStream after true rest else keepStream after false rest

/-- The bytes of a text. -/
def bytes (s : String) : List UInt8 := s.toUTF8.toList

/-- A text without escape sequences and control characters other than tabs and breaks. -/
def plain (s : String) : String :=
  String.ofList (Utf8.repair (keepWhole .none (bytes s)))

/-- What a stream shows of a text. -/
def printed (s : String) : String :=
  String.ofList (Utf8.repair (keepStream .none false (bytes s)))

example : lines "a\r\nb\r\n\nc".toList = ["a".toList, "b".toList, [], ['c']] := by decide
example : plain "a\x1b[1mb\x01c\x1b]0;t\x07d" = "abcd" := by decide +kernel
example : plain ("a\x1b[" ++ asLiteral "b") = "ab" := by decide +kernel
example : printed "\x1b[3\nab\x01cd" = "\nabd" := by decide +kernel
example : visible "a\x1b\u0085" = "a\\x1b\\u\x7b85\x7d" := by decide

end PooledSql.Text
