import PooledSql.Sqlite.Formula.Reader
import PooledSql.Sqlite.Inquiry

/-!
# Texts of several statements

A text may hold several statements with semicolons between them. They are run one after the other,
each read only when its turn comes, and what is left of the text from there on is what messages
show. Of the statements that stand in such a text by themselves, those are known that create or
remove a table, insert rows of literals or take all rows out, ask for literals or about a setting, or
open or end a transaction.
-/

namespace PooledSql.Sqlite

/-- What a statement asks for that is given as a text. -/
inductive Command
  | nothing
  | creation
  /-- A table is to go, if it is there or else anyway. -/
  | removal (table : String) (isOptional : Bool)
  | insertion (table : String) (rows : List (List Value))
  | emptying (table : String)
  | literals (values : List Value)
  | inquiry
  | opening
  | commit
  | rollback
deriving DecidableEq, Repr

namespace Command

open Scanner

/-- The words that may follow the first one of a statement on a transaction. -/
def transaction (c : Command) : Scanner Command := do
  if ← skip? "TRANSACTION" then
    let _ ← take? Lexeme.isReference
  return c

/-- The removal of a table, after its first word. -/
def removing : Scanner Command := do
  skip "TABLE"
  let isOptional ← skip? "IF"
  if isOptional then skip "EXISTS"
  return .removal (← take Lexeme.isReference).content isOptional

/-- A number, negated or not. -/
def number (isNegated : Bool) : Scanner Value := do
  match ← Formula.numeral (← take Lexeme.isNumber) with
  | .number spelling _ => return (Formula.numberValue isNegated spelling).toValue
  | _ => return .null

/-- A literal. -/
def literal : Scanner Value := do
  if ← sees Lexeme.isNumber then number false
  else if ← skip? "+" then number false
  else if ← skip? "-" then number true
  else
    let isLiteral (l : Lexeme) : Bool :=
      l.isBytes || l.kind == .text || ["NULL", "TRUE", "FALSE"].any l.isSpelled
    let l ← take isLiteral
    if l.isBytes then return (Formula.byteString l).toValue
    else if l.kind = .text then return .text l.content
    else return ((Formula.truthWord? l.content).map Value.boolean).getD .null

/-- A row of literals, which has to be as wide as the one before it, and those that follow. -/
def rowsFrom (width : Option Nat) : Nat → Scanner (List (List Value))
  | 0 => refuseEnd
  | n + 1 => do
    skip "("
    let row ← listOf literal (← Formula.enoughSteps)
    skip ")"
    if width.any fun w => w != row.length then complain .unevenRows none
    if ← skip? "," then return row :: (← rowsFrom (some row.length) n) else return [row]

/-- The insertion of rows, after its first word. -/
def inserting : Scanner Command := do
  skip "INTO"
  let l ← take Lexeme.isReference
  skip "VALUES"
  return .insertion l.content (← rowsFrom none (← Formula.enoughSteps))

/-- Statements by their first words, and how they go on as far as that matters here. -/
def beginnings : List (String × Scanner Command) :=
  [("BEGIN", do
      let _ ← skip? "DEFERRED"
      transaction .opening),
    ("COMMIT", transaction .commit), ("END", transaction .commit),
    ("ROLLBACK", transaction .rollback), ("DROP", removing), ("INSERT", inserting),
    ("DELETE", do
      skip "FROM"
      return .emptying (← take Lexeme.isReference).content),
    ("SELECT", do return .literals (← listOf literal (← Formula.enoughSteps)))]

/-- The statement that a text starts with. One that creates a table or asks about a setting is read
by itself. -/
def ofText (text : String) : Except Refusal Command :=
  let units := (lexemes text).dropWhile isEnd
  match units.head? with
  | none => .ok .nothing
  | some l =>
    if l.isSpelled "CREATE" then .ok .creation
    else if l.isSpelled "PRAGMA" then .ok .inquiry
    else runOn (do (← choose beginnings)) units

end Command

/-- The places where statements end among some units, given whether one has begun. -/
def stopsFrom (hasBegun : Bool) : List Lexeme → List Nat
  | [] => []
  | l :: rest =>
    if Scanner.isEnd l then
      if hasBegun then l.stop :: stopsFrom false rest else stopsFrom false rest
    else stopsFrom true rest

/-- What is left of a text after each of its statements that ends with a semicolon. -/
def remainders (text : String) : List String :=
  (stopsFrom false (lexemes text)).map fun n =>
    String.ofList ((Text.Utf8.dropBytes? n text.toList).getD [])

end PooledSql.Sqlite
