import PooledSql.Sqlite.Plan.Term

/-!
# Courses through a table

The rows of a table can be gone through by their numbers or by an index, from one end to the other
or within bounds that terms of the filter give. Each such course has an estimate of its work and of
the rows that it leaves, and the cheapest one is taken. An index from which all values can be taken
that are asked for saves looking the rows up.

A disjunction can be gone through by its alternatives, if each of them has a course within bounds.
-/

namespace PooledSql.Sqlite.Plan

/-- A way through the rows of a table. -/
structure Course where
  /-- The place of the index, or nothing for the numbers of the rows. -/
  index : Option Nat
  /-- The places of the terms whose bounds are kept to. -/
  terms : List Nat := []
  /-- How many columns of the index have given values. -/
  equals : Nat := 0
  /-- Each column of the index has one given value. -/
  isExact : Bool := false
  /-- All values that are asked for are in the index. -/
  covers : Bool := false
  /-- The place of the term whose alternatives are gone through instead. -/
  disjunction : Option Nat := none
  /-- The work. -/
  run : Estimate
  /-- The rows that are left. -/
  out : Estimate
deriving DecidableEq, Repr

/-! ## Bounds -/

/-- How the rows of a table can be found. -/
structure Entrance where
  index : Option Nat
  columns : List KeyColumn
  /-- How many columns tell all rows apart. -/
  width : Nat
  covers : Bool
  /-- The work of one row after the other. -/
  step : Estimate

/-- What is looked for in a table: the terms, of which the first `own` ones tell how many rows are
left. -/
structure Search where
  terms : List Term
  own : Nat

namespace Search

/-- The rows that are left after the terms that a course does not use. -/
def left (q : Search) (used : List Nat) (out : Estimate) : Estimate :=
  let unused := ((q.terms.take q.own).zipIdx.filter fun p =>
    !p.1.isDerived && !used.contains p.2).map Prod.fst
  let guess := unused.foldl (fun n t => max n t.guess) 0
  min (out - unused.length) (Estimate.rows - guess)

/-- The rows between bounds. -/
def between (out : Estimate) (isClosed : Bool) : Estimate :=
  if isClosed then min (out - 2) (max 10 (out - 60)) else min (out - 1) (max 10 (out - 20))

/-- How far a course within bounds has come. -/
structure Stage where
  terms : List Nat := []
  equals : Nat := 0
  /-- No column has a choice of given values. -/
  isExact : Bool := true
  /-- The rows that are found for each choice of given values. -/
  out : Estimate := Estimate.rows
  /-- The choices of given values. -/
  choices : Estimate := 0

/-- The course at a stage. -/
def course (q : Search) (e : Entrance) (stage : Stage) : Course :=
  let found := Estimate.plus Estimate.search (stage.out + e.step)
  let run :=
    if e.index.isNone || e.covers then found else Estimate.plus found (stage.out + 16)
  { index := e.index
    terms := stage.terms
    equals := stage.equals
    isExact := stage.isExact && stage.equals == e.width
    covers := e.covers
    run := run + stage.choices
    out := q.left stage.terms (stage.out + stage.choices) }

/-- The places whose values are the same by one more term than those that are known to be. -/
def moreEqual (q : Search) (spots : List Spot) : List Spot :=
  let other (t : Term) : List Spot :=
    match t.equates with
    | some (a, b) => if spots.contains a then [b] else if spots.contains b then [a] else []
    | none => []
  spots ++ (q.terms.flatMap other).filter fun spot => !spots.contains spot

/-- The places whose values are the same as those at a place. -/
def equalTo (q : Search) (spot : Spot) : List Spot :=
  (q.terms.filter fun t => t.equates.isSome).foldl (fun spots _ => q.moreEqual spots) [spot]

/-- The places and the bounds of the terms that bound a column. -/
def boundsOf (q : Search) (k : KeyColumn) : List (Nat × Bound) :=
  let spots := q.equalTo k.spot
  q.terms.zipIdx.filterMap fun (t, i) =>
    (t.constraint.filter fun c => spots.contains c.spot && c.suits k).map fun c => (i, c.bound)

/-- The courses within bounds, from a stage on. -/
def within (q : Search) (e : Entrance) (stage : Stage) : List KeyColumn → List Course
  | [] => []
  | k :: rest =>
    let bounds := q.boundsOf k
    let given (i : Nat) (isExact : Bool) (choices : Estimate) : Stage :=
      { terms := stage.terms ++ [i]
        equals := stage.equals + 1
        isExact := stage.isExact && isExact
        out := stage.out + Estimate.agreeing e.width (stage.equals + 1) -
          Estimate.agreeing e.width stage.equals
        choices := stage.choices + choices }
    let limited (terms : List Nat) (isClosed : Bool) : Course :=
      q.course e { stage with terms := stage.terms ++ terms, out := between stage.out isClosed }
    bounds.flatMap fun (i, bound) =>
      match bound with
      | .equal => q.course e (given i true 0) :: q.within e (given i true 0) rest
      | .among n => q.course e (given i false n) :: q.within e (given i false n) rest
      | .upper => [limited [i] false]
      | .lower =>
        let ends := bounds.filterMap fun (j, b) => if b = .upper then some j else none
        limited [i] false :: ends.map fun j => limited [i, j] true

end Search

/-! ## The cheapest one -/

namespace Course

/-- A course that keeps to fewer bounds than another one is not cheaper in truth. -/
def isOutdone (c d : Course) : Bool :=
  if d.run < c.run && d.out < c.out then false
  else if c.equals < d.equals && c.index == d.index then true
  else if d.terms.length ≤ c.terms.length then false
  else c.terms.all d.terms.contains && !(c.covers && !d.covers)

/-- The course with estimates that agree with those of the courses that are known. -/
def adjusted (c : Course) (known : List Course) : Course :=
  if c.index.isNone then c
  else
    (known.filter fun k => k.index.isSome).foldl
      (fun c k =>
        if k.isOutdone c then { c with run := min k.run c.run, out := min (k.out - 1) c.out }
        else if c.isOutdone k then { c with run := max k.run c.run, out := max (k.out + 1) c.out }
        else c) c

/-- A course is no more work than another one and leaves no more rows. -/
def isAtLeast (c d : Course) : Bool := c.run ≤ d.run && c.out ≤ d.out

/-- Takes the courses away that another one is as good as, up to one that is as good. -/
def prune (c : Course) : List Course → List Course
  | [] => []
  | k :: rest =>
    if k.isAtLeast c then k :: rest
    else if c.isAtLeast k then prune c rest
    else k :: prune c rest

/-- Adds a course to those that are known, unless one of them is as good. -/
def insert (c : Course) : List Course → List Course
  | [] => [c]
  | k :: rest =>
    if k.isAtLeast c then k :: rest
    else if c.isAtLeast k then c :: prune c rest
    else k :: insert c rest

/-- The courses that are worth to be known. -/
def known (courses : List Course) : List Course :=
  courses.foldl (fun known c => (c.adjusted known).insert known) []

/-- A course is less work than another one, or as much and leaves fewer rows. -/
def isBetter (c d : Course) : Bool := c.run < d.run || (c.run == d.run && c.out < d.out)

/-- The cheapest of some courses, and the first of those. -/
def cheapest? : List Course → Option Course
  | [] => none
  | c :: rest => some (rest.foldl (fun best c => if c.isBetter best then c else best) c)

end Course

/-! ## Tables -/

/-- The width of a row. -/
def rowWidth (t : StoredTable) : Nat :=
  t.columns.foldl (fun n c => n + c.width) (if t.key.isNone then 1 else 0)

/-- The width of a row in an index, with its number if it has one. In the index in whose order the
rows are, it is that of all that is kept. -/
def indexWidth (t : StoredTable) (index : Index) : Nat :=
  if t.orderingIndex? = some index then
    (t.columns.filter StoredColumn.isKept).foldl (fun n c => n + c.width) 0
  else
    (t.entryColumns index).foldl (fun n c => n + (t.columns[c.place]?.map StoredColumn.width).getD 1)
      (if t.isNumbered then 1 else 0)

/-- The estimate of the bytes of a row in an index against that of the row, in fifteenths. -/
def indexShare (t : StoredTable) (index : Index) : Estimate :=
  15 * rowSize (indexWidth t index) / rowSize (rowWidth t)

/-- The columns in whose order an index is: last comes what tells its entries apart, unless the index
belongs to the primary key. -/
def keyColumns (t : StoredTable) (index : Index) : List KeyColumn :=
  let key (c : IndexedColumn) : Option KeyColumn :=
    t.columns[c.place]?.map fun column =>
      ⟨if t.key = some c.place then .number else .column c.place, column.affinity,
        c.collation.getD column.collation⟩
  if index.isKey then index.columns.filterMap key
  else (t.entryColumns index).filterMap key ++ (t.ifNumbered ⟨.number, .integer, .binary⟩).toList

/-- The values at all places can be taken from an index, as far as that is known. What a column makes
is made from others. -/
def coversAll (t : StoredTable) (index : Index) (spots : List Spot) : Bool :=
  t.orderingIndex? == some index || spots.all fun
    | .number => true
    | .column i => !t.isMade i && index.columns.any fun c => c.place == i

/-- The indexes with their places in the order in which they are looked at: the youngest one first,
and last those that make room for new rows. -/
def rankedIndexes (t : StoredTable) : List (Index × Nat) :=
  let all := t.indexes.zipIdx.reverse
  let makesRoom (p : Index × Nat) : Bool := p.1.resolution == some .replace
  all.filter (fun p => !makesRoom p) ++ all.filter makesRoom

/-- The numbers of the rows as an entrance. -/
def tableEntrance : Entrance := ⟨none, [⟨.number, .integer, .binary⟩], 1, false, 16⟩

/-- An index as an entrance. -/
def indexEntrance (t : StoredTable) (spots : List Spot) (index : Index) (place : Nat) : Entrance :=
  { index := some place
    columns := keyColumns t index
    width := index.columns.length
    covers := coversAll t index spots
    step := 1 + indexShare t index }

/-- The course through all of an index, if it is less than the table. -/
def wholeIndex? (t : StoredTable) (q : Search) (e : Entrance) (index : Index) : Option Course :=
  if e.covers && (!t.isNumbered || rowSize (indexWidth t index) < rowSize (rowWidth t)) then
    some {
      index := e.index
      covers := true
      run := Estimate.rows + e.step
      out := q.left [] Estimate.rows }
  else none

/-- The courses within bounds by an index, from which the values at some places are asked for. -/
def boundedCourses (t : StoredTable) (spots : List Spot) (q : Search) (p : Index × Nat) :
    List Course :=
  let e := indexEntrance t spots p.1 p.2
  q.within e {} e.columns

/-- The courses by the numbers of the rows, if they have numbers. -/
def numberCourses (t : StoredTable) (q : Search) : List Course :=
  let whole : Course :=
    { index := none, run := Estimate.rows + 16, out := q.left [] Estimate.rows }
  if t.isNumbered then whole :: q.within tableEntrance {} tableEntrance.columns else []

/-- The courses through a table by its numbers or by an index. -/
def simpleCourses (t : StoredTable) (spots : List Spot) (q : Search) : List Course :=
  let byIndex (p : Index × Nat) : List Course :=
    (wholeIndex? t q (indexEntrance t spots p.1 p.2) p.1).toList ++ boundedCourses t spots q p
  numberCourses t q ++ (rankedIndexes t).flatMap byIndex

/-- The term that an alternative is where it stands for the disjunction. -/
def Alternative.term (a : Alternative) : Term :=
  { spots := [a.constraint.spot], constraint := some a.constraint }

/-- The least work for an alternative within bounds, and the rows that are left of it. -/
def alternativeWork? (t : StoredTable) (spots : List Spot) (terms : List Term) (a : Alternative) :
    Option (Estimate × Estimate) :=
  let courses := simpleCourses t spots ⟨a.term :: terms, 1⟩
  (courses.filter fun c => !c.terms.isEmpty).foldl
    (fun best c =>
      match best with
      | none => some (c.run, c.out)
      | some (run, out) => if c.run ≤ run then some (c.run, min c.out out) else best) none

/-- The course by the alternatives of the term at a place, if there is one. -/
def disjunctionCourse? (t : StoredTable) (spots : List Spot) (terms : List Term)
    (p : Term × Nat) : Option Course := do
  let parts ← p.1.alternatives.mapM (alternativeWork? t spots terms)
  match parts with
  | [] => none
  | first :: rest =>
    let (run, out) :=
      rest.foldl (fun a b => (Estimate.plus a.1 b.1, Estimate.plus a.2 b.2)) first
    some { index := none, terms := [p.2], disjunction := some p.2, run := run + 1, out }

/-- The courses by the alternatives of a term. -/
def disjunctionCourses (t : StoredTable) (spots : List Spot) (terms : List Term) : List Course :=
  terms.zipIdx.filterMap (disjunctionCourse? t spots terms)

/-- All courses through a table. -/
def courses (t : StoredTable) (spots : List Spot) (terms : List Term) : List Course :=
  simpleCourses t spots ⟨terms, terms.length⟩ ++ disjunctionCourses t spots terms

/-- The courses through a table whose rows are to be changed, which have to be looked up anyway. -/
def changeCourses (t : StoredTable) (spots : List Spot) (terms : List Term) : List Course :=
  let q : Search := ⟨terms, terms.length⟩
  let byIndex (p : Index × Nat) : List Course :=
    let e := indexEntrance t spots p.1 p.2
    (if t.isNumbered then none else wholeIndex? t q e p.1).toList ++ boundedCourses t spots q p
  numberCourses t q ++ (rankedIndexes t).flatMap byIndex ++ disjunctionCourses t spots terms

/-- The course that is taken. -/
def courseOf? (courses : List Course) : Option Course := Course.cheapest? (Course.known courses)

end PooledSql.Sqlite.Plan
