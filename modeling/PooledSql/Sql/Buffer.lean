import PooledSql.Sql.Encoding

/-!
# Buffers

A text under construction in one dialect. Whatever is written goes to its end, and the names that
conditions take go on from one writing to the next.
-/

namespace PooledSql.Sql

/-- Something that can be written: a call of `sql::SqlWriter`. -/
inductive Writing
  | text (s : String)
  | column (c : Column)
  | value (v : Value)
  | table (t : Table)
  | predicate (p : Predicate)
  | comparison (relation : Relation) (lhs rhs : Scalar)
  | collective (relation : Relation) (lhs : Scalar) (rhs : Collective)
  | select (value : Scalar) (label : String) (source : Table) (filter : Option Predicate)
  | query (q : Query) (label : String)

/-- The pieces that are written. -/
def Writing.pieces (d : Dialect) : Writing → Naming (List Piece)
  | .text s => pure [.verbatim s]
  | .column c => pure ((Operand.column c).pieces d)
  | .value v => pure (Piece.literal d v)
  | .table t => pure (sourcePieces t)
  | .predicate p => do return (← Predicate.encode d p).pieces d
  | .comparison relation lhs rhs => do
    return (← Predicate.encode d (.compare relation lhs rhs)).pieces d
  | .collective relation lhs rhs => do
    return (← Predicate.encode d (.collective relation lhs rhs)).pieces d
  | .select v label source filter => do
    return (← Query.encode d label (.select source v filter)).pieces d
  | .query q label => do return (← Query.encode d label q).pieces d

/-- A text under construction: its dialect, how many names are taken, and the text so far
(`sql::buffer::SqlBuffer`). -/
structure Buffer where
  dialect : Dialect
  taken : Nat := 0
  text : String := ""

namespace Buffer

/-- Writes at the end of the text, and tells what was added: a method of `sql::SqlWriter`. -/
def write (b : Buffer) (w : Writing) : String × Buffer :=
  let (pieces, taken) := (w.pieces b.dialect).run b.taken
  let added := String.ofList (spell pieces)
  (added, { b with taken, text := b.text ++ added })

end Buffer

/-- The text of a query whose values go by `label`: `exprn::collective::Query::write_query`. -/
def queryText (d : Dialect) (q : Query) (label : String) : String :=
  ((Buffer.mk d 0 "").write (.query q label)).1

end PooledSql.Sql
