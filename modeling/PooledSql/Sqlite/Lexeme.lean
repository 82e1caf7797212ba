import PooledSql.Sql.Lexer

/-!
# Lexemes

The units that storage splits the text of a statement into, each with the place where it starts, in
bytes. Blanks and comments separate them, and the text ends with its first NUL at the latest, also
within a quoted name or string, which is then one that was not closed.
-/

namespace PooledSql.Sqlite

/-- The kinds of units. -/
inductive LexemeKind
  | word
  /-- A name in quotes or brackets. -/
  | name
  /-- A string in single quotes. -/
  | text
  /-- A number, a byte string or a parameter. -/
  | constant
  /-- An operator or a mark of punctuation. -/
  | sign
  /-- No unit at all. -/
  | illegal
deriving DecidableEq, Repr

/-- A unit of a statement. -/
structure Lexeme where
  kind : LexemeKind
  spelling : List Char
  /-- Where it starts, in bytes. -/
  start : Nat
deriving DecidableEq, Repr

/-- The character that ends a text. -/
def endMark : Char := '\x00'

/-- A blank between units. -/
def isSeparator (c : Char) : Bool := c == ' ' || c == '\t' || c == '\n' || c == '\x0c' || c == '\r'

/-- A blank that follows others. -/
def isBlank (c : Char) : Bool := isSeparator c || c == '\x0b'

/-- The mark of the order of bytes, which is a blank where a unit could start. -/
def orderMark : Char := '\ufeff'

/-- A character that a name may start with. -/
def isNameStart (c : Char) : Bool := c.isAlpha || c == '_' || decide (128 ≤ c.toNat)

/-- A character that a name may go on with. -/
def isNameChar (c : Char) : Bool := isNameStart c || c.isDigit || c == '$'

/-- How many characters there are up to a closing quote and with it, two quotes being none, or else
up to the end; and whether there is a closing quote. -/
def quotedExtent (quote : Char) : List Char → Nat × Bool
  | [] => (0, false)
  | [c] => if c = quote then (1, true) else if c = endMark then (0, false) else (1, false)
  | c :: d :: rest =>
    if c = endMark then (0, false)
    else if c = quote then
      if d = quote then
        let (n, closed) := quotedExtent quote rest
        (n + 2, closed)
      else (1, true)
    else
      let (n, closed) := quotedExtent quote (d :: rest)
      (n + 1, closed)

/-- How many characters a comment takes that may end with `*/`, after its first two. -/
def commentExtent : List Char → Nat
  | [] => 0
  | '*' :: '/' :: _ => 2
  | c :: rest => if c = endMark then 0 else commentExtent rest + 1

/-- The longest run of characters of a kind at the start. -/
def runLength (p : Char → Bool) (s : List Char) : Nat := (s.takeWhile p).length

/-- The operators of more than one character. -/
def longSigns : List String := ["->>", "->", "==", "<>", "<=", "<<", ">=", ">>", "!=", "||"]

/-- The operators and marks of one character. -/
def shortSigns : List Char :=
  ['(', ')', ';', '+', '-', '*', '/', ',', '%', '&', '~', '=', '<', '>', '|', '.']

/-- A hexadecimal digit. -/
def isHexDigit (c : Char) : Bool := (Text.Hex.digit? c).isSome

/-- The mark that may stand between two digits of a number. -/
def digitMark : Char := '_'

/-- How many digits, or marks between them, a text starts with. -/
def digitsExtent (isDigit : Char → Bool) : List Char → Nat :=
  runLength fun c => isDigit c || c == digitMark

/-- How many characters the exponent takes that a text starts with. -/
def exponentExtent (s : List Char) : Nat :=
  match s with
  | e :: d :: rest =>
    let isSigned := (d == '+' || d == '-') && (rest.head?.map Char.isDigit).getD false
    if (e = 'e' ∨ e = 'E') ∧ (d.isDigit || isSigned) then 2 + digitsExtent Char.isDigit rest else 0
  | _ => 0

/-- How many characters a number takes. -/
def numberExtent (s : List Char) : Nat :=
  let decimal :=
    let whole := digitsExtent Char.isDigit s
    let fraction :=
      match s.drop whole with
      | '.' :: rest => 1 + digitsExtent Char.isDigit rest
      | _ => 0
    whole + fraction + exponentExtent (s.drop (whole + fraction))
  match s with
  | '0' :: x :: d :: rest =>
    if (x = 'x' ∨ x = 'X') ∧ isHexDigit d then 3 + digitsExtent isHexDigit rest else decimal
  | _ => decimal

/-- How many characters a parameter takes after its first one, and whether it has a name that ends
properly; `named` tells whether there is anything of one so far. -/
def parameterExtent (named : Bool) : List Char → Nat × Bool
  | [] => (0, named)
  | [c] => if isNameChar c then (1, true) else (if c = '(' ∧ named then 1 else 0, named && c != '(')
  | c :: d :: rest =>
    let after (n : Nat) (r : Nat × Bool) : Nat × Bool := (n + r.1, r.2)
    if isNameChar c then after 1 (parameterExtent true (d :: rest))
    else if c = '(' ∧ named then
      let n := runLength (fun x => x != ')' && !isBlank x && x != endMark) (d :: rest)
      if ((d :: rest).drop n).head? = some ')' then (n + 2, true) else (n + 1, false)
    else if c = ':' ∧ d = ':' then after 2 (parameterExtent named rest)
    else (0, named)

/-- The unit that a text starts with, if it does not start with a separator, and how many characters
the unit or the separator takes. -/
def extent (s : List Char) : Option LexemeKind × Nat :=
  let quoted (kind : LexemeKind) (quote : Char) (skipped : Nat) : Option LexemeKind × Nat :=
    let (n, closed) := quotedExtent quote (s.drop skipped)
    (some (if closed then kind else .illegal), n + skipped)
  match s with
  | [] => (none, 0)
  | c :: rest =>
    if isSeparator c then (none, 1 + runLength isBlank rest)
    else if c = orderMark then (none, 1)
    else if c = '-' ∧ rest.head? = some '-' then
      (none, 1 + runLength (fun x => x != '\n' && x != endMark) rest)
    else if c = '/' ∧ rest.head? = some '*' ∧ (rest.drop 1).head?.getD endMark ≠ endMark then
      (none, 2 + commentExtent (rest.drop 1))
    else if c = '"' ∨ c = '`' then quoted .name c 1
    else if c = '\'' then quoted .text c 1
    else if c = '[' then
      let n := runLength (fun x => x != ']' && x != endMark) rest
      if (rest.drop n).head? = some ']' then (some .name, n + 2) else (some .illegal, n + 1)
    else if (c = 'x' ∨ c = 'X') ∧ rest.head? = some '\'' then
      let digits := (rest.drop 1).takeWhile fun x => x != '\'' && x != endMark
      let closed := decide ((rest.drop (1 + digits.length)).head? = some '\'')
      let valid := closed && (Text.Hex.decode digits).isSome
      (some (if valid then .constant else .illegal), 2 + digits.length + (if closed then 1 else 0))
    else if isNameStart c then (some .word, 1 + runLength isNameChar rest)
    else if c.isDigit ∨ (c = '.' ∧ (rest.head?.map Char.isDigit).getD false) then
      let n := numberExtent s
      let surplus := runLength isNameChar (s.drop n)
      (some (if surplus = 0 then .constant else .illegal), n + surplus)
    else if c = '?' then (some .constant, 1 + runLength Char.isDigit rest)
    else if [':', '@', '$', '#'].contains c then
      let (n, isProper) := parameterExtent false rest
      (some (if isProper then .constant else .illegal), 1 + n)
    else
      match longSigns.find? fun t => t.toList.isPrefixOf s with
      | some t => (some .sign, t.length)
      | none => (some (if shortSigns.contains c then .sign else .illegal), 1)

/-- The units of a text from a place on. -/
def lexemesFrom (start : Nat) (s : List Char) : List Lexeme :=
  match s with
  | [] => []
  | c :: rest =>
    if c = endMark then []
    else
      let (kind, n) := extent (c :: rest)
      let spelling := c :: rest.take (n - 1)
      let more := lexemesFrom (start + Text.Utf8.byteCount spelling) (rest.drop (n - 1))
      match kind with
      | some kind => ⟨kind, spelling, start⟩ :: more
      | none => more
termination_by s.length
decreasing_by simp only [List.length_drop, List.length_cons]; omega

/-- The units of a text. -/
def lexemes (s : String) : List Lexeme := lexemesFrom 0 s.toList

namespace Lexeme

/-- A word in any letter case, or a sign. -/
def isSpelled (l : Lexeme) (s : String) : Bool :=
  (l.kind == .word || l.kind == .sign) && String.ofList (l.spelling.map Char.toUpper) == s

/-- The name or string that a unit stands for, without its quotes. -/
def content (l : Lexeme) : String :=
  String.ofList <|
    match l.kind, l.spelling with
    | .name, '[' :: rest => rest.dropLast
    | .name, quote :: rest => ((Text.Quoted.unquote quote rest).map Prod.fst).getD rest
    | .text, quote :: rest => ((Text.Quoted.unquote quote rest).map Prod.fst).getD rest
    | _, spelling => spelling

/-- The fault of a unit that cannot stand where it does. -/
def refusal (l : Lexeme) : Refusal :=
  let token := String.ofList l.spelling
  ⟨if l.kind = .illegal then .unrecognized token else .unexpected token, some l.start⟩

end Lexeme

example : (lexemes "a \"b\"\"\" -- c\n'd\x00'").map Lexeme.start = [0, 2, 13] := by
  decide +kernel

end PooledSql.Sqlite
