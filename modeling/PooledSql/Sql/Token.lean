import PooledSql.Text.Hex
import PooledSql.Text.Quoted
import PooledSql.Text.Utf8
import PooledSql.Value
import PooledSql.Dialect

/-!
# Tokens

The lexical units of SQL: words, numbers, quoted names, quoted strings, byte strings and signs. A
token holds what it means (a name without its quotes), and `spell` writes it.

A text is made of *pieces*: tokens, blanks between them, and stretches that somebody else wrote.

Results:
* `spell_append`: pieces are spelled one after the other.
-/

namespace PooledSql.Sql

/-- A lexical unit. -/
inductive Token
  | word (s : String)
  | number (s : String)
  /-- A name in double quotes. -/
  | name (s : String)
  /-- A string in single quotes. -/
  | text (s : String)
  /-- A byte string, as its digits between the quotes of `X'..'`. -/
  | bytes (digits : String)
  /-- An operator or a mark of punctuation. -/
  | sign (s : String)
deriving DecidableEq, Repr

/-- How a token is written. -/
def Token.spell : Token → List Char
  | .word s => s.toList
  | .number s => s.toList
  | .name s => Text.Quoted.enclose '"' s.toList
  | .text s => Text.Quoted.enclose '\'' s.toList
  | .bytes digits => 'X' :: Text.Quoted.enclose '\'' digits.toList
  | .sign s => s.toList

/-- A part of a text: a token, a blank, or a stretch of another hand. -/
inductive Piece
  | token (t : Token)
  | blank
  | verbatim (text : String)
deriving DecidableEq, Repr

/-- How a piece is written. -/
def Piece.spell : Piece → List Char
  | .token t => t.spell
  | .blank => [' ']
  | .verbatim text => text.toList

/-- The text of some pieces. -/
def spell (pieces : List Piece) : List Char := pieces.flatMap Piece.spell

/-- How many bytes some pieces take. -/
def size (pieces : List Piece) : Nat := Text.Utf8.byteCount (spell pieces)

theorem spell_append (a b : List Piece) : spell (a ++ b) = spell a ++ spell b := by
  simp [spell]

namespace Piece

/-- A word. -/
def word (s : String) : Piece := .token (.word s)

/-- A sign. -/
def sign (s : String) : Piece := .token (.sign s)

/-- A quoted name. -/
def name (s : String) : Piece := .token (.name s)

/-- A number with its sign as a token of its own: `sql::buffer::SqlBuffer::write_value`, on
numbers. -/
def number (signed : List Char) : List Piece :=
  match signed with
  | '-' :: digits => [sign "-", .token (.number (String.ofList digits))]
  | digits => [.token (.number (String.ofList digits))]

/-- The literal of a value starts with a minus. -/
def isSigned : Value → Bool
  | .integer n => decide (n < 0)
  | .real x => x.isFinite && x.isNegative
  | _ => false

/-- A value as a literal: `sql::buffer::SqlBuffer::write_value`. Reals that are no numbers or
infinite have none and become `NULL`; byte strings are written as each dialect has them. -/
def literal (d : Dialect) : Value → List Piece
  | .null => [word "NULL"]
  | .boolean b => [word (if b then "TRUE" else "FALSE")]
  | .integer n => number (toString n.toInt).toList
  | .real x => if x.isFinite then number (Number.Layout.literal.write x) else [word "NULL"]
  | .text s => [.token (.text s)]
  | .blob bytes =>
    let digits := String.ofList (Text.Hex.encode bytes)
    match d with
    | .sqlite => [.token (.bytes digits)]
    | .postgres => [.token (.text ("\\x" ++ digits)), sign "::", word "bytea"]

end Piece

end PooledSql.Sql
