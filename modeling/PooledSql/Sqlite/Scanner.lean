import PooledSql.Sqlite.Lexeme

/-!
# Taking units

The units of a text are taken one after the other. The first one that cannot stand where it does
ends the reading with its refusal, and so does the end of the text where something is missing.
-/

namespace PooledSql.Sqlite

/-! ## Kinds of units -/

namespace Lexeme

/-- What a unit spells, in capitals. -/
def capitals (l : Lexeme) : String := String.ofList (l.spelling.map Char.toUpper)

/-- The words that cannot be names. -/
def reservedWords : List String :=
  ["ADD", "ALL", "ALTER", "AND", "AS", "AUTOINCREMENT", "BETWEEN", "CASE", "CHECK", "COLLATE",
    "COMMIT", "CONSTRAINT", "CREATE", "DEFAULT", "DEFERRABLE", "DELETE", "DISTINCT", "DROP", "ELSE",
    "ESCAPE", "EXCEPT", "EXISTS", "FOREIGN", "FROM", "GROUP", "HAVING", "IN", "INDEX", "INSERT",
    "INTERSECT", "INTO", "IS", "ISNULL", "JOIN", "LIMIT", "NOT", "NOTHING", "NOTNULL", "NULL", "ON",
    "OR", "ORDER", "PRIMARY", "REFERENCES", "RETURNING", "SELECT", "SET", "TABLE", "THEN", "TO",
    "TRANSACTION", "UNION", "UNIQUE", "UPDATE", "USING", "VALUES", "WHEN", "WHERE"]

/-- The words of joins, which can be names only where no join can be. -/
def joinWords : List String := ["CROSS", "FULL", "INNER", "LEFT", "NATURAL", "OUTER", "RIGHT"]

/-- A word or a name in quotes. -/
def isIdentifier (l : Lexeme) : Bool :=
  match l.kind with
  | .word => !reservedWords.contains l.capitals
  | .name => true
  | _ => false

/-- The unit can be the name of something that the text does not create. -/
def isReference (l : Lexeme) : Bool := l.isIdentifier || l.kind == .text

/-- The word of hints on indexes, which can be a name, but not one of a type or a collation. -/
def hintWord : String := "INDEXED"

/-- The unit can be a name wherever one can stand. -/
def isName (l : Lexeme) : Bool :=
  l.isReference && !(l.kind == .word && (hintWord :: joinWords).contains l.capitals)

/-- A constant that starts with one of some characters. -/
def startsWith (l : Lexeme) (p : Char → Bool) : Bool :=
  l.kind == .constant && (l.spelling.head?.map p).getD false

/-- A number. -/
def isNumber (l : Lexeme) : Bool := l.startsWith fun c => c.isDigit || c == '.'

/-- A number without marks between its digits. -/
def isPlainNumber (l : Lexeme) : Bool := l.isNumber && !l.spelling.contains digitMark

/-- A word that is the first one of a construct, or the name of something. -/
def isWord (l : Lexeme) (s : String) : Bool := l.kind == .word && l.capitals == s

/-- A byte string. -/
def isBytes (l : Lexeme) : Bool := l.startsWith fun c => c == 'x' || c == 'X'

/-- The place after the unit, in bytes. -/
def stop (l : Lexeme) : Nat := l.start + Text.Utf8.byteCount l.spelling

end Lexeme

/-! ## Reading -/

/-- How far a reading got. -/
structure ScanState where
  /-- The units that are left. -/
  units : List Lexeme
  /-- What the units that were taken are refused for, once the next one is seen to be in place. -/
  complaint : Option Refusal := none
deriving Repr

/-- A reading of units: what it makes of the first ones, and how far it got. -/
abbrev Scanner := StateT ScanState (Except Refusal)

namespace Scanner

variable {α : Type}

/-- A refusal of what was taken. A unit out of place that comes next goes before it. -/
def complain (fault : StatementFault) (offset : Option Nat) : Scanner Unit :=
  modify fun s => { s with complaint := some ⟨fault, offset⟩ }

/-- There is too little text. -/
def refuseEnd : Scanner α := fun _ => .error ⟨.incompleteInput, none⟩

/-- Takes the next unit, which has to be of a kind. -/
def take (p : Lexeme → Bool) : Scanner Lexeme := fun s =>
  match s.units, s.complaint with
  | [], _ => .error ⟨.incompleteInput, none⟩
  | l :: rest, none =>
    if p l && l.kind != .illegal then .ok (l, ⟨rest, none⟩) else .error l.refusal
  | l :: _, some refusal =>
    .error (if p l && l.kind != .illegal then refusal else l.refusal)

/-- The next unit is of a kind; it is not taken. -/
def sees (p : Lexeme → Bool) : Scanner Bool := fun s =>
  .ok ((s.units.head?.map p).getD false, s)

/-- The unit after the next one is of a kind. -/
def foresees (p : Lexeme → Bool) : Scanner Bool := fun s =>
  .ok ((s.units[1]?.map p).getD false, s)

/-- Takes the next unit if it is of a kind. -/
def take? (p : Lexeme → Bool) : Scanner (Option Lexeme) := do
  if ← sees p then return some (← take p) else return none

/-- Takes a word or a sign, which has to be there. -/
def skip (s : String) : Scanner Unit := do
  let _ ← take fun l => l.isSpelled s

/-- Takes a word or a sign if it is there, and tells whether it was. -/
def skip? (s : String) : Scanner Bool := do
  return (← take? fun l => l.isSpelled s).isSome

/-- Takes the next unit if it is one of some words or signs, and gives what goes with it. -/
def choose? (choices : List (String × α)) : Scanner (Option α) := do
  match ← take? fun l => choices.any fun c => l.isSpelled c.1 with
  | some l => return choices.lookup l.capitals
  | none => return none

/-- Takes the next unit, which has to be one of some words or signs, and gives what goes with it. -/
def choose (choices : List (String × α)) : Scanner α := do
  match choices.lookup (← take fun l => choices.any fun c => l.isSpelled c.1).capitals with
  | some a => return a
  | none => refuseEnd

/-- One or more of something with commas between them, up to some number. -/
def listOf (item : Scanner α) : Nat → Scanner (List α)
  | 0 => refuseEnd
  | n + 1 => do
    let x ← item
    if ← skip? "," then return x :: (← listOf item n) else return [x]

/-- Takes everything up to the parenthesis that closes some open ones, and with it. -/
def skipGroup : Nat → Nat → Scanner Unit
  | 0, _ => refuseEnd
  | n + 1, depth => do
    if ← skip? "(" then skipGroup n (depth + 1)
    else if ← skip? ")" then if depth ≤ 1 then return () else skipGroup n (depth - 1)
    else
      let _ ← take fun _ => true
      skipGroup n depth

/-- The mark that ends a statement. -/
def isEnd (l : Lexeme) : Bool := l.isSpelled ";"

/-- What a reading makes of a statement: of all units up to the mark that ends it. Any number of such
marks may stand before it. -/
def runOn (scanner : Scanner α) (units : List Lexeme) : Except Refusal α := do
  let (x, s) ← scanner ⟨units.dropWhile isEnd, none⟩
  match s.units.head?.filter fun l => !isEnd l, s.complaint with
  | some l, _ => throw l.refusal
  | none, some refusal => throw refusal
  | none, none => return x

end Scanner

end PooledSql.Sqlite
