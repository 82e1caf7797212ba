import PooledSql.Sqlite.Scanner

/-!
# Questions about settings

A question names a setting, in front of which there may be the name of the database that is meant:
the one that is open, or the one that holds temporary tables. It may also say what the setting is to
be from then on.
-/

namespace PooledSql.Sqlite

/-- A question about a setting. -/
structure Inquiry where
  /-- The database that it names, if it names one: the one that holds temporary tables, or not. -/
  database : Option Bool := none
  /-- The name of the setting, in lower case. -/
  name : String
  /-- What the setting is to be, if that is said. -/
  wanted : Option String := none
deriving DecidableEq, Repr

namespace Inquiry

/-- The databases of a connection; the second one holds temporary tables. -/
def databases : List (String × Bool) := [("main", false), ("temp", true)]

/-- Words that can say what a setting should be, beside names. -/
def valueWords : List String := ["ON", "DELETE", "DEFAULT"]

/-- Takes what a setting is to be. -/
def value : Scanner String := do
  if ← Scanner.skip? "-" then
    return String.ofList ('-' :: (← Scanner.take Lexeme.isPlainNumber).spelling)
  else if ← Scanner.skip? "+" then
    return String.ofList (← Scanner.take Lexeme.isPlainNumber).spelling
  else
    let l ← Scanner.take fun l =>
      l.isPlainNumber || l.isReference || valueWords.any l.isSpelled
    return if l.isReference then l.content else String.ofList l.spelling

/-- Takes what a setting is to be after its sign, or in parentheses, if it is there. -/
def assignment : Scanner (Option String) := do
  if ← Scanner.skip? "=" then return some (← value)
  else if ← Scanner.skip? "(" then
    let wanted ← value
    Scanner.skip ")"
    return some wanted
  else return none

/-- Takes a name, in front of which there may be that of a database, and what follows. -/
def parts : Scanner (Option Lexeme × Lexeme × Option String) := do
  Scanner.skip "PRAGMA"
  let first ← Scanner.take Lexeme.isReference
  if ← Scanner.skip? "." then
    let name ← Scanner.take Lexeme.isReference
    return (some first, name, ← assignment)
  else return (none, first, ← assignment)

/-- The question that a text asks. -/
def ofText (text : String) : Except Refusal Inquiry := do
  let (database, name, wanted) ← Scanner.runOn parts (lexemes text)
  let name := name.content.map Char.toLower
  match database with
  | none => return { name, wanted }
  | some l =>
    match databases.lookup (l.content.map Char.toLower) with
    | some isTemporary => return { database := some isTemporary, name, wanted }
    | none => throw ⟨.unknownDatabase (String.ofList l.spelling), some l.start⟩

/-- It is about temporary tables. -/
def isTemporary (i : Inquiry) : Bool := i.database == some true

/-- The settings that are known only once the tables were looked at. -/
def needsTables (i : Inquiry) : Bool :=
  ["journal_mode", "synchronous", "cache_size"].contains i.name

/-- The settings that are told even when they are changed. -/
def isAnswered (i : Inquiry) : Bool := ["journal_mode", "busy_timeout"].contains i.name

end Inquiry

end PooledSql.Sqlite
