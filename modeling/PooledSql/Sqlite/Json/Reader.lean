import PooledSql.Sqlite.Json.Basic

/-!
# Reading JSON

Reads a text as a JSON value, in the standard spelling or in a looser one, which is noted. Where a
text is refused, the place of the last thing that was not expected is noted too. What is nested too
deeply is refused.
-/

namespace PooledSql.Sqlite.Json

/-! ## Blanks -/

/-- A blank of standard JSON. -/
def isBlank (b : UInt8) : Bool := b == 32 || b == 9 || b == 10 || b == 13

/-- How many bytes a comment takes that goes on to its end mark, after its start. -/
def commentLength : List UInt8 → Option Nat
  | 42 :: 47 :: _ => some 2
  | _ :: rest => (commentLength rest).map (· + 1)
  | [] => none

/-- How many bytes a comment takes that goes on to the end of its line, after its start. -/
def lineLength : List UInt8 → Nat
  | [] => 0
  | b :: rest =>
    if b = 10 ∨ b = 13 then 1
    else if b = 0xe2 ∧ endsLine rest then 3
    else lineLength rest + 1

/-- How many bytes a single blank takes, or a comment. -/
def looseBlank : List UInt8 → Nat
  | [] => 0
  | b :: rest =>
    if isBlank b || b == 11 || b == 12 then 1
    else
      let is (tail : List UInt8) : Bool := tail.isPrefixOf rest
      match b with
      | 47 =>
        match rest with
        | 42 :: c :: more => ((commentLength (c :: more)).map (· + 2)).getD 0
        | 47 :: more => lineLength more + 2
        | _ => 0
      | 0xc2 => if is [0xa0] then 2 else 0
      | 0xe1 => if is [0x9a, 0x80] then 3 else 0
      | 0xe2 =>
        match rest with
        | 0x80 :: c :: _ =>
          if (0x80 ≤ c ∧ c ≤ 0x8a) ∨ c = 0xa8 ∨ c = 0xa9 ∨ c = 0xaf then 3 else 0
        | 0x81 :: 0x9f :: _ => 3
        | _ => 0
      | 0xe3 => if is [0x80, 0x80] then 3 else 0
      | 0xef => if is [0xbb, 0xbf] then 3 else 0
      | _ => 0

/-- How many bytes all blanks and comments take. -/
def looseBlanks : Nat → List UInt8 → Nat
  | 0, _ => 0
  | n + 1, s =>
    match looseBlank s with
    | 0 => 0
    | k + 1 => k + 1 + looseBlanks n (s.drop (k + 1))

/-! ## Places -/

/-- A place in a text, and what follows it. -/
structure Place where
  index : Nat
  rest : List UInt8

namespace Place

/-- The place after some bytes. -/
def skip (p : Place) (count : Nat) : Place := ⟨p.index + count, p.rest.drop count⟩

/-- The next byte. -/
def head? (p : Place) : Option UInt8 := p.rest.head?

/-- The byte stands next. -/
def sees (p : Place) (c : Char) : Bool := p.head? == some (byte c)

/-- The place after blanks of standard JSON. -/
def skipBlanks (p : Place) : Place := p.skip (p.rest.takeWhile isBlank).length

/-- The place after blanks and comments. -/
def skipLoosely (p : Place) : Place := p.skip (looseBlanks p.rest.length p.rest)

end Place

/-- What is noted while a text is read. -/
structure Notes where
  /-- Where something was not expected. -/
  index : Nat := 0
  isStandard : Bool := true

/-- Reading, with what is noted. -/
abbrev Reading := StateM Notes

/-- Notes a place. -/
def note (index : Nat) : Reading Unit := modify fun n => { n with index }

/-- Notes that the spelling is loose. -/
def loosely : Reading Unit := modify fun n => { n with isStandard := false }

/-- What is found where a value can stand. -/
inductive Found
  | value (j : Json) (after : Place)
  /-- A bracket, a comma or a colon. -/
  | mark (c : UInt8) (after : Place)
  | nothing
  | refused

/-! ## Numbers -/

/-- What was read of a number. -/
structure NumberRead where
  form : NumberForm
  spelling : List UInt8
  length : Nat
  isStandard : Bool

/-- Digits of base sixteen at the start, and the rest. -/
def spanHex (s : List UInt8) : List UInt8 × List UInt8 := (s.takeWhile isHex, s.dropWhile isHex)

/-- The form of a number with or without a point or an exponent. -/
def formOf (isLoose isDecimal : Bool) : NumberForm :=
  if isDecimal then (if isLoose then .looseDecimal else .decimal) else .integer

/-- What is known of a number while it is read. -/
structure NumberState where
  isLoose : Bool := false
  isDecimal : Bool := false
  hasExponent : Bool := false

/-- Reads digits, a point and an exponent, after some bytes in reverse order: how a number goes on
and how long it is, or the place where it is wrong. -/
def readFigures : Nat → NumberState → List UInt8 → List UInt8 → Except Nat (NumberState × Nat)
  | 0, _, before, _ => .error before.length
  | n + 1, st, before, s =>
    let afterPoint : Option Bool :=
      match before with
      | b :: c :: _ => if isDigit b then none else some (b == byte '.' && isDigit c)
      | [b] => if isDigit b then none else some false
      | [] => some false
    let wrong : Except Nat (NumberState × Nat) := .error before.length
    let finish : Except Nat (NumberState × Nat) :=
      match afterPoint with
      | none => .ok (st, before.length)
      | some true => .ok ({ st with isLoose := true }, before.length)
      | some false => wrong
    match s with
    | [] => finish
    | b :: rest =>
      if isDigit b then readFigures n st (b :: before) rest
      else if b = byte '.' then
        if st.isDecimal then wrong
        else readFigures n { st with isDecimal := true } (b :: before) rest
      else if isIn "eE" b then
        if afterPoint = some false ∨ st.hasExponent then wrong
        else
          let st : NumberState := ⟨st.isLoose || afterPoint.isSome, true, true⟩
          let (before, rest) : List UInt8 × List UInt8 :=
            match rest with
            | sign :: more =>
              if isIn "+-" sign then (sign :: b :: before, more) else (b :: before, rest)
            | [] => (b :: before, [])
          if rest.head?.any isDigit then readFigures n st before rest
          else .error (before.length - 1)
      else finish

/-- Reads a number. -/
def readNumber (s : List UInt8) : Except Nat NumberRead :=
  let sign := s.head?.getD 0
  let isSigned := isIn "+-" sign
  let isStandard := isSigned.not || sign == byte '-'
  let body := if isSigned then s.drop 1 else s
  let offset := if isSigned then 1 else 0
  let spelled (length : Nat) : List UInt8 :=
    if sign = byte '+' then (s.take length).drop 1 else s.take length
  let figures (st : NumberState) (isStandard : Bool) : Except Nat NumberRead := do
    let (end_, length) ← readFigures (s.length + 1) st (s.take 1).reverse (s.drop 1)
    return ⟨formOf end_.isLoose end_.isDecimal, spelled length, length,
      isStandard && (st.isLoose || !end_.isLoose)⟩
  if sign = byte '.' then
    if (s.drop 1).head?.any isDigit then figures ⟨true, true, false⟩ false else .error 0
  else
    match body with
    | 48 :: x :: d :: rest =>
      if isIn "xX" x && isHex d then
        let length := offset + 3 + (spanHex rest).1.length
        .ok ⟨.hexadecimal, spelled length, length, false⟩
      else if isDigit x then .error (offset + if isSigned then 0 else 1)
      else figures {} isStandard
    | [48, x] =>
      if isDigit x then .error (offset + if isSigned then 0 else 1) else figures {} isStandard
    | b :: _ =>
      if isDigit b then figures {} isStandard
      else
        let infinite := (body.take 3).map (fun b => b ||| 32) == ascii "inf"
        if infinite then
          let isLong := ((body.drop 3).take 5).map (fun b => b ||| 32) == ascii "inity"
          let spelling := ascii (if sign = byte '-' then "-9e999" else "9e999")
          .ok ⟨.decimal, spelling, if isLong then 9 else 4, false⟩
        else if b = byte '.' then figures { isLoose := true } false
        else .error 0
    | [] => .error 0

/-! ## Texts -/

/-- How a text is written so far, and whether it is in the standard spelling. -/
structure TextState where
  form : TextForm := .plain
  isStandard : Bool := true

/-- A text with an escape of the standard. -/
def TextState.escaped (st : TextState) : TextState :=
  if st.form = .plain then { st with form := .escaped } else st

/-- Reads a text up to its quote, of which so many bytes have been read: how it is written, its
bytes and their number, or the place where it is wrong. -/
def readText (quote : UInt8) :
    Nat → TextState → List UInt8 → List UInt8 → Except (Nat × TextState) (TextState × List UInt8)
  | 0, st, before, _ => .error (before.length, st)
  | n + 1, st, before, s =>
    match s with
    | [] => .error (before.length, st)
    | b :: rest =>
      if b = quote then .ok (st, before.reverse)
      else if b = 92 then
        let loose : TextState := ⟨.loose, false⟩
        match rest with
        | [] => .error (before.length + 1, st)
        | c :: more =>
          if isIn "\"\\/bfnrt" c || (c == byte 'u' && areHex 4 more) then
            readText quote n st.escaped (c :: b :: before) more
          else if c = 13 then
            match more with
            | 10 :: more => readText quote n loose (10 :: c :: b :: before) more
            | _ => readText quote n loose (c :: b :: before) more
          else if isIn "'v\n" c || (c == byte '0' && !more.head?.any isDigit) ||
              (c == 0xe2 && endsLine more) || (c == byte 'x' && areHex 2 more) then
            readText quote n loose (c :: b :: before) more
          else .error (before.length + 1, st)
      else if b.toNat < 32 then readText quote n ⟨.loose, false⟩ (b :: before) rest
      else if b = 34 then readText quote n { st with form := .loose } (b :: before) rest
      else readText quote n st (b :: before) rest

/-! ## Words -/

/-- Words that stand for values: in any letter case, unless they belong to standard JSON. -/
def words : List (String × Bool × Json) :=
  [("true", true, .truth true), ("false", true, .truth false), ("null", true, .null),
    ("inf", false, .number .decimal (ascii "9e999")),
    ("infinity", false, .number .decimal (ascii "9e999")), ("nan", false, .null),
    ("qnan", false, .null), ("snan", false, .null)]

/-- The word that a text starts with, if it ends there. -/
def word? (s : List UInt8) : Option (String × Bool × Json) :=
  words.find? fun (name, isExact, _) =>
    let start := s.take name.length
    let start := if isExact then start else start.map fun b => if isLetter b then b ||| 32 else b
    start == ascii name && !(s.drop name.length).head?.any fun b => isLetter b || isDigit b

/-! ## Labels without quotes -/

/-- A byte that a label can start with. -/
def startsLabel (b : UInt8) : Bool :=
  isLetter b || b == byte '_' || b == byte '$' || decide (0x80 ≤ b.toNat)

/-- Four digits follow an escape sign. -/
def isLabelEscape : List UInt8 → Bool
  | 92 :: 117 :: rest => areHex 4 rest
  | _ => false

/-- The bytes of a label at the start of a text, and whether there are escapes among them. -/
def spanLabel : Nat → List UInt8 → List UInt8 × Bool
  | 0, _ => ([], false)
  | _, [] => ([], false)
  | n + 1, b :: rest =>
    if (startsLabel b || isDigit b) && looseBlank (b :: rest) == 0 then
      let (label, escapes) := spanLabel n rest
      (b :: label, escapes)
    else if isLabelEscape (b :: rest) then ((b :: (spanLabel n rest).1), true)
    else ([], false)

/-- The label at the start of a text. -/
def label? : List UInt8 → Option Written
  | [] => none
  | b :: rest =>
    let escapes := isLabelEscape (b :: rest)
    if startsLabel b || escapes then
      let (more, others) := spanLabel rest.length rest
      some ⟨if escapes || others then .escaped else .plain, b :: more⟩
    else none

/-! ## Values -/

/-- The greatest depth. -/
def greatestDepth : Nat := 1000

/-- A place is noted, and the text is refused. -/
def refuse (index : Nat) : Reading Found := do
  note index
  return .refused

/-- What was found is not expected there. What was refused has been noted already. -/
def refuseFound (f : Found) (index : Nat) : Reading Found :=
  match f with
  | .refused => return .refused
  | _ => refuse index

/-- Reads a text in quotes. -/
def readQuoted (p : Place) (quote : UInt8) : Reading Found := do
  if quote = 39 then loosely
  match readText quote (p.rest.length + 1) {} [] (p.rest.drop 1) with
  | .ok (st, bytes) =>
    if !st.isStandard then loosely
    return .value (.text ⟨st.form, bytes⟩) (p.skip (bytes.length + 2))
  | .error (k, st) =>
    if !st.isStandard then loosely
    refuse (p.index + 1 + k)

/-- Reads a number or a word. -/
def readPlain (p : Place) (b : UInt8) : Reading Found := do
  if isDigit b || isIn "+-." b then
    match readNumber p.rest with
    | .ok r =>
      if !r.isStandard then loosely
      return .value (.number r.form r.spelling) (p.skip r.length)
    | .error k => refuse (p.index + k)
  else
    match word? p.rest with
    | some (name, isExact, j) =>
      if !isExact then loosely
      return .value j (p.skip name.length)
    | none => refuse p.index

/-- What follows a value in an array or an object: the place after it if it is one of two marks. -/
def marked? (p : Place) (separator closing : Char) : Option (Bool × Place) :=
  if p.sees separator then some (false, p.skip 1)
  else if p.sees closing then some (true, p.skip 1)
  else none

mutual

/-- Reads what stands at a place. -/
def readValue : Nat → Nat → Place → Reading Found
  | 0, _, _ => return .refused
  | n + 1, depth, p =>
    match p.rest with
    | [] => return .nothing
    | b :: _ =>
      if b = byte '{' then
        if greatestDepth ≤ depth then refuse p.index
        else readMembers n (depth + 1) (p.skip 1) []
      else if b = byte '[' then
        if greatestDepth ≤ depth then refuse p.index
        else readItems n (depth + 1) (p.skip 1) []
      else if b = 34 ∨ b = 39 then readQuoted p b
      else if isIn "\x7d],:" b then do
        note p.index
        return .mark b (p.skip 1)
      else if isBlank b then readValue n depth p.skipBlanks
      else if 0 < looseBlank p.rest then do
        loosely
        readValue n depth p.skipLoosely
      else readPlain p b

/-- Reads the items of an array from a place on. -/
def readItems : Nat → Nat → Place → List Json → Reading Found
  | 0, _, _, _ => return .refused
  | n + 1, depth, p, items => do
    match ← readValue n depth p with
    | .value j after =>
      let items := items ++ [j]
      let done (isLast : Bool) (next : Place) : Reading Found :=
        if isLast then return .value (.array items) next else readItems n depth next items
      match (marked? after ',' ']').orElse fun _ => marked? after.skipBlanks ',' ']' with
      | some (isLast, next) => done isLast next
      | none =>
        let after := after.skipBlanks
        match ← readValue n depth after with
        | .mark 44 next => done false next
        | .mark 93 next => done true next
        | _ => refuse after.index
    | .mark 93 next =>
      if !items.isEmpty then loosely
      return .value (.array items) next
    | f => refuseFound f p.index

/-- Reads the members of an object from a place on. -/
def readMembers : Nat → Nat → Place → List (Written × Json) → Reading Found
  | 0, _, _, _ => return .refused
  | n + 1, depth, p, members => do
    match ← readValue n depth p with
    | .mark 125 next =>
      if !members.isEmpty then loosely
      return .value (.object members) next
    | .value (.text label) after => readMember n depth after label members
    | .value _ _ => refuse p.index
    | f =>
      let start := p.skipLoosely
      match label? start.rest with
      | some label =>
        loosely
        readMember n depth (start.skip label.bytes.length) label members
      | none => refuseFound f start.index

/-- Reads the rest of a member after its label. -/
def readMember : Nat → Nat → Place → Written → List (Written × Json) → Reading Found
  | 0, _, _, _, _ => return .refused
  | n + 1, depth, p, label, members =>
    if p.sees ':' then readMemberValue n depth (p.skip 1) label members
    else
      let p := p.skipBlanks
      if p.sees ':' then readMemberValue n depth (p.skip 1) label members
      else do
        match ← readValue n depth p with
        | .mark 58 next => readMemberValue n depth next label members
        | f => refuseFound f p.index

/-- Reads the value of a member, and what follows it. -/
def readMemberValue : Nat → Nat → Place → Written → List (Written × Json) → Reading Found
  | 0, _, _, _, _ => return .refused
  | n + 1, depth, p, label, members => do
    match ← readValue n depth p with
    | .value j after =>
      let members := members ++ [(label, j)]
      let done (isLast : Bool) (next : Place) : Reading Found :=
        if isLast then return .value (.object members) next else readMembers n depth next members
      match (marked? after ',' '\x7d').orElse fun _ => marked? after.skipBlanks ',' '\x7d' with
      | some (isLast, next) => done isLast next
      | none =>
        let after := after.skipBlanks
        match ← readValue n depth after with
        | .mark 44 next => done false next
        | .mark 125 next => done true next
        | _ => refuse after.index
    | f => refuseFound f p.index

end

/-- What a text is read as. -/
structure Outcome where
  value? : Option Json
  /-- It is in the standard spelling. -/
  isStandard : Bool
  /-- Where something was not expected, if it is refused. -/
  index : Nat

/-- Reads a text, which ends with its first zero byte. -/
def read (s : List UInt8) : Outcome :=
  let s := Characters.untilZero s
  let (found, notes) := (readValue (8 * s.length + 8) 0 ⟨0, s⟩).run {}
  match found with
  | .value j after =>
    let after := after.skipBlanks
    let rest := after.skipLoosely
    if rest.rest.isEmpty then ⟨some j, notes.isStandard && after.rest.isEmpty, 0⟩
    else ⟨none, notes.isStandard, notes.index⟩
  | _ => ⟨none, notes.isStandard, notes.index⟩

end PooledSql.Sqlite.Json
