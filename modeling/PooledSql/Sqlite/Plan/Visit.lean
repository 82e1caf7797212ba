import PooledSql.Sqlite.Plan.Course

/-!
# The order in which rows are visited

A sub-query that stands as an operand has the value of the first row that passes its filter, so the
order matters in which rows are visited. It is that of the index by which the table is gone through,
and of the numbers of the rows where the index makes no difference, or where there is none. Absent
values come first.

The alternatives of a disjunction are gone through one after the other, each in an order of its own,
and a row belongs to the first one that it fits.
-/

namespace PooledSql.Sqlite.Plan

open Sql (Operand Condition)

/-! ## Order -/

/-- Rows in the order of an index, or else as they are. -/
def arrange (t : StoredTable) (index : Option Nat) (rows : List Row) : List Row :=
  match index.bind fun i => t.indexes[i]? with
  | none => rows
  | some index => t.arranged index rows

/-! ## Routes -/

/-- How the rows of a table are gone through: by an index or by their numbers, or in a way of its
own for each of some alternatives. -/
inductive Route
  | straight (index : Option Nat)
  | branching (branches : List (Alternative × Route))

/-- The index by which the rows are gone through all the way, if there is one. -/
def Route.index : Route → Option Nat
  | .straight index => index
  | .branching _ => none

/-- What is at a place in a row. -/
def cellAt (t : StoredTable) (row : Row) : Spot → Cell
  | .column i =>
    ⟨row.values[i]?.getD .null, t.columns[i]?.map StoredColumn.affinity,
      t.columns[i]?.map StoredColumn.collation⟩
  | .number => ⟨.ofInt row.number, some .integer, none⟩

/-- A row fits an alternative. -/
def Alternative.fits (t : StoredTable) (a : Alternative) (row : Row) : Bool :=
  match (cellAt t row a.constraint.spot).order (.literal a.literal) with
  | some o => a.relation.holds o
  | none => false

mutual

/-- Rows in the order of a route. -/
def visit (t : StoredTable) (rows : List Row) : Route → List Row
  | .straight index => arrange t index rows
  | .branching branches => visitBranches t rows branches

/-- The rows by the first alternative that each of them fits, and then those that fit none. -/
def visitBranches (t : StoredTable) (rows : List Row) : List (Alternative × Route) → List Row
  | [] => rows
  | (a, route) :: rest =>
    visit t (rows.filter (a.fits t)) route ++
      visitBranches t (rows.filter fun r => !a.fits t r) rest

end

/-! ## Choosing a route -/

/-- The terms that go along with each alternative of the disjunction at a place. -/
def companions (terms : List Term) (place : Nat) : List Term :=
  let isBound (t : Term) : Bool :=
    t.constraint.isSome || t.equates.isSome || !t.alternatives.isEmpty
  (terms.zipIdx.filter fun p =>
    p.2 != place && isBound p.1 && !p.1.hasQuery && !p.1.isDerived).map Prod.fst

/-- The route that a course is, where each alternative of a disjunction is gone through by a route
of its own for the terms that hold for it. -/
def routeOf (course : Option Course) (terms : List Term) (route : List Term → Route) : Route :=
  match course with
  | none => .straight none
  | some c =>
    match c.disjunction, c.disjunction.bind fun i => terms[i]? with
    | some place, some disjunction =>
      let own (a : Alternative) : Route := route (withDerived (a.term :: companions terms place))
      .branching (disjunction.alternatives.map fun a => (a, own a))
    | _, _ => .straight c.index

/-- The route through a table from which the values at some places are asked for, with alternatives
within alternatives up to a depth. -/
def routeFor (t : StoredTable) (spots : List Spot) : Nat → List Term → Route
  | 0, terms =>
    .straight ((courseOf? (simpleCourses t spots ⟨terms, terms.length⟩)).bind Course.index)
  | depth + 1, terms => routeOf (courseOf? (courses t spots terms)) terms (routeFor t spots depth)

/-- A condition is a disjunction. -/
def isDisjunction : Condition → Bool
  | .any _ => true
  | _ => false

/-- The rows of a table can be gone through only by their numbers, from one end to the other. -/
def isPlain (t : StoredTable) (filter : Option Condition) : Bool :=
  t.indexes.isEmpty && !(filter.elim [] conjuncts).any isDisjunction

/-- The rows of an occurrence of a table, in the order in which a sub-query goes through them. -/
def rowsFor (s : Store) (t : StoredTable) (source : Table) (scope : Scope Cell) (value : Operand)
    (filter : Option Condition) : List Row :=
  if isPlain t filter then t.orderedRows
  else
    let outer : Scope Trait := scope.map (Frame.map Trait.ofCell)
    let scope := headingTraits t (occurrenceNames source) true :: outer
    let spots := operandSpots s scope value ++ filterSpots s scope filter
    let terms := terms { store := s, scope } filter
    visit t t.orderedRows (routeFor t spots terms.length terms)

/-! ## Changes -/

mutual

/-- An operand has a sub-query in it. -/
def operandHasQuery : Operand → Bool
  | .subquery _ => true
  | _ => false

/-- A condition has a sub-query in it. -/
def conditionHasQuery : Condition → Bool
  | .compare _ lhs rhs => operandHasQuery lhs || operandHasQuery rhs
  | .inValues _ lhs _ => operandHasQuery lhs
  | .notTrue part => conditionHasQuery part
  | .any parts => listHasQuery parts
  | .all parts => listHasQuery parts
  | .verbatim _ => false
  | _ => true

/-- Some conditions have a sub-query in them. -/
def listHasQuery : List Condition → Bool
  | [] => false
  | c :: rest => conditionHasQuery c || listHasQuery rest

end

/-- A course by an index leads to one row at most. -/
def isSingle (t : StoredTable) (c : Course) : Bool :=
  c.isExact && (c.index.bind fun i => t.indexes[i]?).any Index.isDecisive

/-- The route by which the rows of a table are gone through that pass a filter, while each of them
is changed as soon as it is found. That is not possible for more than one row if the change of one
may have an effect on others. -/
def routeForChange (s : Store) (t : StoredTable) (isReferenced : Bool) (source : Table)
    (filter : Option Condition) : Route :=
  if isPlain t filter then .straight none
  else
    let scope := [headingTraits t (occurrenceNames source) true]
    let spots := filterSpots s scope filter
    let terms := changeTerms { store := s, scope } filter
    let course := courseOf? (changeCourses t spots terms)
    if isReferenced || filter.any conditionHasQuery then
      .straight ((course.filter (isSingle t)).bind Course.index)
    else routeOf course terms (routeFor t spots terms.length)

end PooledSql.Sqlite.Plan
