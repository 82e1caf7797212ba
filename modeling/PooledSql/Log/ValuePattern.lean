import PooledSql.Text.Blank
import PooledSql.Text.Hex
import PooledSql.Text.Letter

/-!
# Patterns of field values

A directive may ask for the value of a field: for a truth value, for a number, or else for a
pattern. Patterns are regular expressions over Unicode. As there are no tables of Unicode
properties, classes such as the words' characters are only there where Unicode is switched off, and
so is the freedom from case. A pattern has to be readable and what it asks for has to be there; if
it then asks for edges of words among Unicode's characters, no automaton can be built.
-/

namespace PooledSql.ValuePattern

/-- Why a pattern is refused. -/
inductive PatternFault
  /-- It cannot be read, or asks for what is not there. -/
  | invalid
  /-- It asks for edges of words among Unicode's characters. -/
  | wordEdges
deriving DecidableEq, Repr

/-- The words of a refusal. -/
def PatternFault.message : PatternFault → String
  | .invalid => "error building NFA"
  | .wordEdges =>
    "unsupported regex feature for DFAs: cannot build DFAs for regexes with Unicode word " ++
      "boundaries; switch to ASCII word boundaries, or heuristically enable Unicode word " ++
      "boundaries or use a different regex engine"

/-! ## What patterns are -/

/-- Something in brackets. -/
inductive Member
  | character (c : Char) (isByte : Bool)
  | range (first last : Char) (isByte : Bool)
  | named (isNegated : Bool)
  | kind (isNegated : Bool)
  | property
  /-- The brackets themselves, if they say what is not meant. -/
  | negation
deriving DecidableEq, Repr

/-- Switches: the flags that are put on and those that are put off. -/
structure Switches where
  on : List Char := []
  off : List Char := []
deriving DecidableEq, Repr

/-- Whether a flag is on after some switches. -/
def Switches.apply (s : Switches) (flag : Char) (before : Bool) : Bool :=
  if s.on.contains flag then true else if s.off.contains flag then false else before

/-- A part of a pattern. -/
inductive Element
  | character (c : Char) (isByte : Bool)
  | any
  | place
  | wordEdge
  | kind (isNegated : Bool)
  | property
  | brackets (members : List Member) (depth : Nat)
  | repeated (e : Element)
  | group (s : Switches) (e : Element)
  | switch (s : Switches)
  | sequence (parts : List Element)
  | choice (parts : List Element)

mutual

/-- How deep a part is nested. -/
def Element.depth : Element → Nat
  | .brackets _ depth => depth
  | .repeated e => e.depth + 1
  | .group _ e => e.depth + 1
  | .sequence [] => 0
  | .sequence (e :: rest) => max e.depth (Element.depths rest) + 1
  | .choice parts => Element.depths parts + 1
  | _ => 0

/-- How deep the deepest part is nested. -/
def Element.depths : List Element → Nat
  | [] => 0
  | e :: rest => max e.depth (Element.depths rest)

end

/-- How deep patterns may be nested. -/
def depthLimit : Nat := 250

/-- Some parts one after the other. -/
def inSequence : List Element → Element
  | [e] => e
  | parts => .sequence parts

/-! ## Reading -/

/-- What is left of a text after blanks and remarks, where these have no meaning. -/
def skipBlanks (inRemark : Bool) : List Char → List Char
  | [] => []
  | c :: rest =>
    if inRemark then skipBlanks (c != '\n') rest
    else if Text.isBlankChar c then skipBlanks false rest
    else if c = '#' then skipBlanks true rest
    else c :: rest

/-- What is left of a text after what has no meaning, in a pattern that may be spread out. -/
def skip (isSpread : Bool) (s : List Char) : List Char :=
  if isSpread then skipBlanks false s else s

/-- The character that follows the first one, after what has no meaning and one remark's mark. -/
def following? (isSpread : Bool) (s : List Char) : Option Char :=
  let rest := s.drop 1
  if !isSpread then rest.head?
  else
    let found := (rest.dropWhile Text.isBlankChar)
    let found := if found.head? = some '#' then (found.drop 1).dropWhile Text.isBlankChar else found
    if found.isEmpty then rest.head? else found.head?

/-- Characters with a meaning of their own, which a backslash takes away. -/
def metaCharacters : List Char := "\\.+*?()|[]\x7b\x7d^$#&-~".toList

/-- A character that stands for itself after a backslash. -/
def isEscapable (c : Char) : Bool :=
  metaCharacters.contains c || (c.toNat < 128 && !c.isAlphanum && c != '<' && c != '>')

/-- The number that some digits in base sixteen stand for. -/
def readHexDigits (isSpread : Bool) : Nat → Nat → List Char → Option (Nat × List Char)
  | 0, n, s => some (n, s)
  | _ + 1, _, [] => none
  | k + 1, n, c :: rest => do
    readHexDigits isSpread k (n * 16 + (← Text.Hex.digit? c)) (skip isSpread rest)

/-- Letters that stand for control characters after a backslash. -/
def controlLetters : List (Char × Char) :=
  [('a', '\x07'), ('f', '\x0c'), ('t', '\t'), ('n', '\n'), ('r', '\r'), ('v', '\x0b')]

/-- Reads what follows a backslash. -/
def readEscape (isSpread : Bool) : List Char → Option (Element × List Char)
  | [] => none
  | c :: rest =>
    let number (digits : Nat) : Option (Element × List Char) := do
      let (n, rest) ← readHexDigits isSpread digits 0 (skip isSpread rest)
      guard n.isValidChar
      return (.character (Char.ofNat n) (digits = 2), rest)
    if c = 'x' then number 2
    else if c = 'u' then number 4
    else if c = 'U' then number 8
    else if c = 'p' ∨ c = 'P' then
      match skip isSpread rest with
      | [] => none
      | d :: rest => if d = '\\' then none else some (.property, skip isSpread rest)
    else if ['d', 's', 'w'].contains c then some (.kind false, rest)
    else if ['D', 'S', 'W'].contains c then some (.kind true, rest)
    else if isEscapable c then some (.character c false, rest)
    else if c = 'A' ∨ c = 'z' then some (.place, rest)
    else if ['b', 'B', '<', '>'].contains c then some (.wordEdge, rest)
    else (controlLetters.lookup c).map fun d => (.character d false, rest)

/-- The names of classes within brackets. -/
def classNames : List String :=
  ["alnum", "alpha", "ascii", "blank", "cntrl", "digit", "graph", "lower", "print", "punct",
    "space", "upper", "word", "xdigit"]

/-- Reads a named class within brackets, after the bracket that opens it. -/
def readNamed? : List Char → Option (Member × List Char)
  | ':' :: rest =>
    let (isNegated, rest) :=
      match rest with
      | '^' :: rest => (true, rest)
      | rest => (false, rest)
    let name := String.ofList (rest.takeWhile (· != ':'))
    match rest.dropWhile (· != ':') with
    | ':' :: ']' :: rest => if classNames.contains name then some (.named isNegated, rest) else none
    | _ => none
  | _ => none

/-- Reads a character or a class within brackets. -/
def readMember (isSpread : Bool) : List Char → Option (Member × List Char)
  | [] => none
  | '\\' :: rest => do
    match ← readEscape isSpread rest with
    | (.character c isByte, rest) => return (.character c isByte, rest)
    | (.kind isNegated, rest) => return (.kind isNegated, rest)
    | (.property, rest) => return (.property, rest)
    | _ => none
  | c :: rest => some (.character c false, rest)

/-- Reads a character, a class or a range within brackets. -/
def readRange (isSpread : Bool) (s : List Char) : Option (Member × List Char) := do
  let (first, rest) ← readMember isSpread s
  let rest := skip isSpread rest
  let next := following? isSpread rest
  if rest.isEmpty then none
  else if rest.head? ≠ some '-' ∨ next = some ']' ∨ next = some '-' then return (first, rest)
  else
    let (last, rest) ← readMember isSpread (skip isSpread (rest.drop 1))
    match first, last with
    | .character a isByte, .character b isByte' =>
      if a.toNat ≤ b.toNat then return (.range a b (isByte || isByte'), rest) else none
    | _, _ => none

/-- How deep things are nested that are joined: one alone is not nested. -/
def joinDepths : List Nat → Nat
  | [] => 0
  | [d] => d
  | ds => ds.foldl max 0 + 1

/-- How deep an operation on two sets is nested, if there is a left one. -/
def operationDepth (left : Option Nat) (right : Nat) : Nat :=
  match left with
  | none => right
  | some left => max left right + 1

/-- Reads hyphens in front of everything else within brackets. -/
def readHyphens (isSpread : Bool) : Nat → List Char → Nat × List Char
  | 0, s => (0, s)
  | fuel + 1, s =>
    if s.head? = some '-' then
      let (n, rest) := readHyphens isSpread fuel (skip isSpread (s.drop 1))
      (n + 1, rest)
    else (0, s)

/-- Reads what stands at the start of brackets: whether they say what is not meant, and the
characters that have no meaning there. -/
def readOpening (isSpread : Bool) (s : List Char) : Bool × List Member × List Char :=
  let s := skip isSpread s
  let (isNegated, s) := if s.head? = some '^' then (true, skip isSpread (s.drop 1)) else (false, s)
  let (n, s) := readHyphens isSpread s.length s
  if n = 0 ∧ s.head? = some ']' then
    (isNegated, [.character ']' false], skip isSpread (s.drop 1))
  else (isNegated, List.replicate n (.character '-' false), s)

/-- Brackets as far as they are read: their members, the depth of the set left of the last
operation, and the depths of what came after it. -/
structure Brackets where
  members : List Member
  left : Option Nat := none
  depths : List Nat

namespace Brackets

/-- Brackets with what stands at their start. -/
def opened (isNegated : Bool) (first : List Member) : Brackets :=
  { members := if isNegated then .negation :: first else first, depths := first.map fun _ => 0 }

/-- Adds members that are nested to a depth. -/
def add (b : Brackets) (members : List Member) (depth : Nat) : Brackets :=
  { b with members := b.members ++ members, depths := b.depths ++ [depth] }

/-- How deep what is read is nested. -/
def depth (b : Brackets) : Nat := operationDepth b.left (joinDepths b.depths)

end Brackets

/-- Reads brackets up to the one that closes them: their members, how deep they are nested, and the
rest. -/
def readBrackets (isSpread : Bool) (fuel : Nat) (b : Brackets) (s : List Char) :
    Option (List Member × Nat × List Char) :=
  match fuel with
  | 0 => none
  | fuel + 1 =>
    match skip isSpread s with
    | [] => none
    | '[' :: rest =>
      match readNamed? rest with
      | some (member, rest) => readBrackets isSpread fuel (b.add [member] 0) rest
      | none => do
        let (isNegated, first, rest) := readOpening isSpread rest
        let (inner, depth, rest) ← readBrackets isSpread fuel (.opened isNegated first) rest
        readBrackets isSpread fuel (b.add inner depth) rest
    | ']' :: rest => some (b.members, b.depth + 1, rest)
    | c :: d :: rest =>
      if c = d ∧ ['&', '-', '~'].contains c then
        readBrackets isSpread fuel { b with left := some b.depth, depths := [] } rest
      else do
        let (member, rest) ← readRange isSpread (c :: d :: rest)
        readBrackets isSpread fuel (b.add [member] 0) rest
    | [_] => none

/-- The letters of flags. -/
def flagLetters : List Char := ['i', 'm', 's', 'U', 'u', 'R', 'x']

/-- Reads flags up to the colon or the parenthesis that ends them: the switches, whether it is the
colon, and the rest. -/
def readFlags (isOff : Bool) (s : Switches) : List Char → Option (Switches × Bool × List Char)
  | [] => none
  | c :: rest =>
    if c = ':' ∨ c = ')' then
      if isOff ∧ s.off.isEmpty then none else some (s, c = ':', rest)
    else if c = '-' then if isOff then none else readFlags true s rest
    else if !flagLetters.contains c ∨ s.on.contains c ∨ s.off.contains c then none
    else if isOff then readFlags isOff { s with off := c :: s.off } rest
    else readFlags isOff { s with on := c :: s.on } rest

/-- A character of a group's name. -/
def isNameChar (isFirst : Bool) (c : Char) : Bool :=
  c == '_' || Text.isAlphabetic c ||
    !isFirst && (c == '.' || c == '[' || c == ']' || Text.isNumeric c)

/-- How a group starts. -/
inductive Opening
  /-- It is no group, but switches for what follows. -/
  | switch (s : Switches) (rest : List Char)
  | group (s : Switches) (name : Option (List Char)) (rest : List Char)

/-- Reads the start of a group after its parenthesis. -/
def readGroup (isSpread : Bool) (s : List Char) : Option Opening :=
  let named (s : List Char) : Option Opening :=
    let name := s.takeWhile (· != '>')
    match s.dropWhile (· != '>'), name with
    | _ :: rest, first :: others =>
      if isNameChar true first && others.all (isNameChar false) then
        some (.group {} (some name) rest)
      else none
    | _, _ => none
  match skip isSpread s with
  | '?' :: '=' :: _ | '?' :: '!' :: _ | '?' :: '<' :: '=' :: _ | '?' :: '<' :: '!' :: _ => none
  | '?' :: 'P' :: '<' :: rest | '?' :: '<' :: rest => named rest
  | '?' :: rest => do
    let (flags, isGroup, after) ← readFlags false {} rest
    if isGroup then return .group flags none after
    else if rest.head? = some ')' then none
    else return .switch flags after
  | rest => some (.group {} none rest)

/-- What a repetition may be of. -/
def Element.repeat? : Element → Option Element
  | .switch _ => none
  | .sequence [] => none
  | e => some (.repeated e)

/-- The alternatives that are read, and the parts of the one that is being read, the last in
front. -/
structure Draft where
  before : List Element := []
  current : List Element := []

/-- Adds a part. -/
def Draft.add (d : Draft) (e : Element) : Draft := { d with current := e :: d.current }

/-- Ends an alternative. -/
def Draft.next (d : Draft) : Draft :=
  { before := d.before ++ [inSequence d.current.reverse], current := [] }

/-- The pattern that is read. -/
def Draft.finish (d : Draft) : Element :=
  match d.before with
  | [] => inSequence d.current.reverse
  | before => .choice (before ++ [inSequence d.current.reverse])

/-- Reads a pattern, or a group up to the parenthesis that ends it; names of groups are used once
only. -/
def readElements (fuel : Nat) (inGroup isSpread : Bool) (names : List (List Char)) (d : Draft)
    (s : List Char) : Option (Element × List (List Char) × List Char) :=
  match fuel with
  | 0 => none
  | fuel + 1 =>
    match skip isSpread s with
    | [] => if inGroup then none else some (d.finish, names, [])
    | ')' :: rest => if inGroup then some (d.finish, names, rest) else none
    | '|' :: rest => readElements fuel inGroup isSpread names d.next rest
    | '(' :: rest => do
      match ← readGroup isSpread rest with
      | .switch flags rest =>
        readElements fuel inGroup (flags.apply 'x' isSpread) names (d.add (.switch flags)) rest
      | .group flags name rest =>
        if name.any names.contains then none
        else
          let (inner, names, rest) ←
            readElements fuel true (flags.apply 'x' isSpread) (name.toList ++ names) {} rest
          readElements fuel inGroup isSpread names (d.add (.group flags inner)) rest
    | '[' :: rest => do
      let (isNegated, first, rest) := readOpening isSpread rest
      let (members, depth, rest) ←
        readBrackets isSpread (rest.length + 1) (.opened isNegated first) rest
      readElements fuel inGroup isSpread names (d.add (.brackets members depth)) rest
    | '\x7b' :: _ => none
    | '\\' :: rest => do
      let (e, rest) ← readEscape isSpread rest
      readElements fuel inGroup isSpread names (d.add e) rest
    | '.' :: rest => readElements fuel inGroup isSpread names (d.add .any) rest
    | c :: rest =>
      if c = '?' ∨ c = '*' ∨ c = '+' then
        match d.current with
        | [] => none
        | e :: others => do
          let e ← e.repeat?
          let rest := if rest.head? = some '?' then rest.drop 1 else rest
          readElements fuel inGroup isSpread names { d with current := e :: others } rest
      else
        let e := if c = '^' ∨ c = '$' then .place else .character c false
        readElements fuel inGroup isSpread names (d.add e) rest

/-- Reads a pattern. -/
def read? (s : List Char) : Option Element := do
  let (e, _) ← readElements (s.length + 1) false false [] {} s
  if e.depth ≤ depthLimit then return e else none

/-! ## What is there -/

/-- Whether case is disregarded, and whether characters are those of Unicode. -/
structure Manner where
  isCaseless : Bool := false
  isUnicode : Bool := true

/-- The manner after some switches. -/
def Manner.apply (m : Manner) (s : Switches) : Manner :=
  { isCaseless := s.apply 'i' m.isCaseless, isUnicode := s.apply 'u' m.isUnicode }

/-- The character is one of ASCII. -/
def isAscii (c : Char) : Bool := c.toNat < 128

/-- What stands in brackets is there. -/
def Member.isThere (m : Manner) (x : Member) : Bool :=
  if m.isUnicode then
    match x with
    | .negation => true
    | .kind _ | .property => false
    | _ => !m.isCaseless
  else
    match x with
    | .character c _ => isAscii c
    | .range _ last _ => isAscii last
    | .named isNegated | .kind isNegated => !isNegated
    | .property | .negation => false

mutual

/-- Whether a part asks for edges of words among Unicode's characters, and the manner after it, if
all it asks for is there. -/
def Element.needs? (m : Manner) : Element → Option (Bool × Manner)
  | .character c isByte =>
    let isThere :=
      if m.isUnicode then !m.isCaseless
      else isAscii c || !isByte && !m.isCaseless
    if isThere then some (false, m) else none
  | .any => if m.isUnicode then some (false, m) else none
  | .place => some (false, m)
  | .wordEdge => some (m.isUnicode, m)
  | .kind isNegated => if m.isUnicode || isNegated then none else some (false, m)
  | .property => none
  | .brackets members _ => if members.all (Member.isThere m) then some (false, m) else none
  | .repeated e => e.needs? m
  | .group s e => (e.needs? (m.apply s)).map fun r => (r.1, m)
  | .switch s => some (false, m.apply s)
  | .sequence parts => Element.allNeed? m parts
  | .choice parts => Element.allNeed? m parts

/-- The same for some parts, one after the other. -/
def Element.allNeed? (m : Manner) : List Element → Option (Bool × Manner)
  | [] => some (false, m)
  | e :: rest => do
    let (edge, m) ← e.needs? m
    let (edges, m) ← Element.allNeed? m rest
    return (edge || edges, m)

end

/-- Why a text is refused as a pattern. -/
def fault? (s : List Char) : Option PatternFault :=
  match (read? s).bind (Element.needs? {}) with
  | none => some .invalid
  | some (true, _) => some .wordEdges
  | some (false, _) => none

/-! ## Values -/

/-- The digits in front of a text, and the rest. -/
def digits (s : List Char) : List Char × List Char := s.span Char.isDigit

/-- What is left of a text after a sign, if it has one. -/
def unsigned : List Char → List Char
  | '+' :: rest => rest
  | '-' :: rest => rest
  | s => s

/-- The text is a number. -/
def isNumber (s : List Char) : Bool :=
  let s := unsigned s
  if ["inf", "infinity", "nan"].contains (String.ofList (s.map Char.toLower)) then true
  else
    let (whole, rest) := digits s
    let (fraction, rest) :=
      match rest with
      | '.' :: rest => digits rest
      | rest => ([], rest)
    let exponent :=
      match rest with
      | [] => true
      | c :: rest =>
        (c == 'e' || c == 'E') && !(unsigned rest).isEmpty && (unsigned rest).all Char.isDigit
    !(whole.isEmpty && fraction.isEmpty) && exponent

/-- Why the value that a directive asks for is refused. -/
def valueFault? (value : List Char) : Option PatternFault :=
  if isNumber value then none else fault? value

example : fault? "a**|(b.c)?[a-z]".toList = none := by decide +kernel
example : fault? "(".toList = some .invalid := by decide +kernel
example : fault? "\\bx".toList = some .wordEdges := by decide +kernel
example : valueFault? "+5".toList = none := by decide +kernel

end PooledSql.ValuePattern
