import PooledSql.ColumnSet
import PooledSql.Error
import PooledSql.Text.Blank

/-!
# Tables

An occurrence of a table in a query: its name, the name it goes by there, and its columns. Every
occurrence has columns of its own, with identities that no other occurrence has, so a table that is
used twice stays two tables.

Results:
* `declareColumns_next`: declaring hands out one identity per accepted column and no others.
* `column_mem`: a column that is found by name is one of the table's.
-/

namespace PooledSql

/-- A column of one occurrence of a table; `table` is the name that the occurrence goes by:
`exprn::column::ColumnRef`. -/
structure Column where
  id : ColumnId
  table : String
  name : String
deriving DecidableEq, Repr

/-- An occurrence of a table: `exprn::column::Table`. -/
structure Table where
  name : String
  label : String
  columns : List Column
deriving DecidableEq, Repr

namespace Table

/-- Goes by another name than its own: `exprn::column::Table::is_aliased`. -/
def isAliased (t : Table) : Bool := t.name != t.label

/-- The identities of the columns that the occurrence provides: `exprn::column::Table::exports`. -/
def exports (t : Table) : ColumnSet := ColumnSet.ofList (t.columns.map Column.id)

/-- The column of a name: `exprn::column::Table::column`. -/
def column (t : Table) (name : String) : Except ExpressionFault Column :=
  match t.columns.find? fun c => c.name == name with
  | some c => .ok c
  | none => .error (.unknownColumn name t.label)

/-- The columns of the given names after those already `accepted`, with identities from `next` on:
the loop of `exprn::column::Table::aliased`. The first name that is blank or already taken stops the
work; the identities handed out before it stay used. -/
def declareColumns (table label : String) (next : Nat) (accepted : List Column) :
    List String → Except ExpressionFault (List Column) × Nat
  | [] => (.ok accepted, next)
  | name :: rest =>
    if Text.isBlank name then (.error (.blankColumn table), next)
    else if accepted.any fun c => c.name == name then (.error (.duplicateColumn name table), next)
    else declareColumns table label (next + 1) (accepted ++ [⟨⟨next⟩, label, name⟩]) rest

/-- An occurrence of the table `name` that goes by `label` and has columns of the given names, with
identities from `next` on, and the identity to hand out after them: `exprn::column::Table::aliased`,
and `new` where the names agree. -/
def declare (next : Nat) (name label : String) (columns : List String) :
    Except ExpressionFault Table × Nat :=
  if Text.isBlank name || Text.isBlank label then (.error .blankTableName, next)
  else if columns.isEmpty then (.error (.noColumns name), next)
  else
    match declareColumns name label next [] columns with
    | (.ok columns, after) => (.ok ⟨name, label, columns⟩, after)
    | (.error fault, after) => (.error fault, after)

theorem declareColumns_next (table label : String) (next : Nat) (accepted : List Column)
    (names : List String) (columns : List Column) (after : Nat)
    (h : declareColumns table label next accepted names = (.ok columns, after)) :
    after = next + names.length ∧ columns.length = accepted.length + names.length := by
  induction names generalizing next accepted with
  | nil =>
    simp only [declareColumns, Prod.mk.injEq, Except.ok.injEq] at h
    obtain ⟨rfl, rfl⟩ := h
    simp
  | cons name rest ih =>
    simp only [declareColumns] at h
    split at h
    · simp at h
    · split at h
      · simp at h
      · have := ih _ _ h
        simp only [List.length_append, List.length_cons, List.length_nil] at this ⊢
        omega

theorem column_mem {t : Table} {name : String} {c : Column} (h : t.column name = .ok c) :
    c ∈ t.columns ∧ c.name = name := by
  simp only [column] at h
  split at h
  · rename_i found
    cases h
    exact ⟨List.mem_of_find?_eq_some found, by simpa using List.find?_some found⟩
  · simp at h

end Table

end PooledSql
