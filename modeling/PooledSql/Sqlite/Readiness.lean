import PooledSql.Sqlite.Admission

/-!
# Getting rows ready

Before rows are put into a table or changed, all formulas are made ready that say something about
them: those that make values, in the order in which they do so, the values that take the place of
absent ones where a row is not kept out, and the conditions. Of the last two only those count that
have to do with what changes.
-/

namespace PooledSql.Sqlite.StoredTable

/-- How formulas are made ready that are for a place. -/
def preparation (t : StoredTable) (place : Option Place) : Preparation :=
  .plain place (t.namesIn ⟨0, []⟩ [])

/-- What is found in the formulas that make values. Columns that are made from each other cannot be.
-/
def makingFaults (t : StoredTable) : List UseFault :=
  let (made, left) := t.makingOrder
  let formulas := made.filterMap fun i => t.columns[i]?.bind StoredColumn.generator
  (formulas.flatMap fun f => f.valueFaults (t.preparation (some .generator))) ++
    (left.getLast?.map fun i => UseFault.of (.circularGenerator (t.columnName i))).toList

/-- What takes the place of an absent value at a place, where that is not kept out. -/
def substitute? (t : StoredTable) (i : Nat) : Option Formula :=
  (t.columns[i]?.filter fun c =>
    t.key != some i && c.generator.isNone && c.required == some .replace).bind StoredColumn.default

/-- What is found in the values that take the place of absent ones. After these, others are made
once more. -/
def defaultFaults (t : StoredTable) (changes : Nat → Bool) : List UseFault :=
  let places := (List.range t.columns.length).filter changes
  let formulas := places.filterMap t.substitute?
  if formulas.isEmpty then []
  else (formulas.flatMap fun f => f.valueFaults (t.preparation none)) ++ t.makingFaults

/-- What is found in the conditions. -/
def checkFaults (t : StoredTable) (concerns : Check → Bool) : List UseFault :=
  (t.checks.filter concerns).flatMap fun c =>
    c.condition.conditionFaults (t.preparation (some .check))

/-- A condition has to do with columns at some places. -/
def concerns (t : StoredTable) (changes : Nat → Bool) (changesNumber : Bool) (c : Check) : Bool :=
  c.condition.columnNames.any fun name =>
    match t.columnPlace? name with
    | some i => changes i
    | none => changesNumber && isRowNumberName name

/-- What is found when rows are to be written. -/
def writeFaults (t : StoredTable) (changes : Nat → Bool) (concerns : Check → Bool) :
    List UseFault :=
  t.makingFaults ++ t.defaultFaults changes ++ t.checkFaults concerns

/-- What is found when rows are to be put in. -/
def insertFaults (t : StoredTable) : List UseFault :=
  t.writeFaults (fun _ => true) fun _ => true

/-- What is found when the values in the columns at some places are to be changed, and maybe the
numbers of rows. -/
def updateFaults (t : StoredTable) (places : List Nat) (isNumberNew : Bool) : List UseFault :=
  t.writeFaults places.contains (t.concerns places.contains isNumberNew)

end PooledSql.Sqlite.StoredTable
