import PooledSql.Sql.Expression
import PooledSql.Sqlite.Store

/-!
# What references mean

A reference names a table's occurrence and a column. It means the innermost of the surrounding
occurrences that goes by that name and has that column, so one that is nested within another of its
name hides it only where it has the column. Every table has the number of its rows, too, under some
names that its columns may take away.
-/

namespace PooledSql.Sqlite

/-- An occurrence of a table: the names it goes by, what belongs to each of its columns, and what
belongs to the number of the row, if there is one. -/
structure Frame (α : Type) where
  names : List String
  fields : List (String × α)
  number : Option α := none

namespace Frame

variable {α : Type}

/-- An occurrence goes by a name. -/
def isNamed (f : Frame α) (name : String) : Bool := f.names.any (sameName name)

/-- What an occurrence has in a column. -/
def field? (f : Frame α) (column : String) : Option α :=
  match f.fields.find? fun p => sameName p.1 column with
  | some p => some p.2
  | none => if isRowNumberName column then f.number else none

/-- An occurrence with something else in the columns. -/
def map {β : Type} (f : α → β) (x : Frame α) : Frame β :=
  ⟨x.names, x.fields.map fun p => (p.1, f p.2), x.number.map f⟩

end Frame

/-- The surrounding occurrences, the innermost first. -/
abbrev Scope (α : Type) := List (Frame α)

/-- What a reference means. -/
def Scope.find? {α : Type} (scope : Scope α) (table column : String) : Option α :=
  scope.findSome? fun f => if f.isNamed table then f.field? column else none

/-- The names that an occurrence of a table goes by. -/
def occurrenceNames (source : Table) : List String :=
  if !source.isAliased && isCatalogName source.name then catalogNames else [source.label]

namespace StoredTable

/-- An occurrence of a table, with nothing in its columns. -/
def heading (t : StoredTable) (names : List String) : Frame Unit :=
  ⟨names, t.columns.map fun c => (c.name, ()), t.ifNumbered ()⟩

/-- An occurrence of a table, with the values of a row. -/
def frame (t : StoredTable) (names : List String) (row : Row) : Frame Cell where
  names
  fields := t.columns.zipWith
    (fun c v => (c.name, ⟨v, some c.affinity, some c.collation⟩)) row.values
  number := t.ifNumbered ⟨.ofInt row.number, some .integer, none⟩

end StoredTable

/-- The values of a sub-query that goes by a name, of which one is at hand. -/
def memberFrame {α : Type} (label : String) (member : α) : Frame α :=
  { names := [label], fields := [(Sql.valueAlias, member)] }

end PooledSql.Sqlite
