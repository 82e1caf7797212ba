import PooledSql.Predicate

/-!
# Columns that occur free

A column occurs in a tree at places, and around each place there are sub-queries. The occurrence is
*free* if none of them provides the column. A tree imports the columns that occur free in it: the set
is built from the leaves, and each sub-query takes out what its own table provides, so the same column
may be taken out at one place and stay at another.

The left operand of a comparison with a list occurs in the tree whether the list is empty or not, and
text of another hand holds what it says it uses.

Results:
* `holdsFree_predicate`: what a tree imports is an ascending list of what occurs free in it.
* `imports_free`: that, for trees of every kind.
-/

namespace PooledSql

/-! ## Places of columns -/

/-- A column at a place of a tree, with the tables of the sub-queries around the place. -/
structure Occurrence where
  column : ColumnId
  within : List Table := []
deriving DecidableEq, Repr

namespace Occurrence

/-- The same place inside one more sub-query. -/
def inside (source : Table) (o : Occurrence) : Occurrence :=
  { o with within := source :: o.within }

/-- None of the sub-queries around the place provides the column. -/
def IsFree (o : Occurrence) : Prop := ∀ t ∈ o.within, o.column ∉ t.exports

instance decidableIsFree (o : Occurrence) : Decidable o.IsFree :=
  inferInstanceAs (Decidable (∀ t ∈ o.within, o.column ∉ t.exports))

@[simp]
theorem isFree_bare (c : ColumnId) : (Occurrence.mk c []).IsFree := by simp [IsFree]

/-- What occurs inside a sub-query is free around it if it was and the table does not export it. -/
theorem isFree_inside {source : Table} {o : Occurrence} :
    (o.inside source).IsFree ↔ o.column ∉ source.exports ∧ o.IsFree :=
  List.forall_mem_cons

end Occurrence

/-- The places of columns that some text is said to use. -/
def usedPlaces (uses : List ColumnId) : List Occurrence := uses.map fun c => ⟨c, []⟩

mutual

/-- The places of the columns in a scalar. -/
def Scalar.occurrences : Scalar → List Occurrence
  | .column c => [⟨c.id, []⟩]
  | .literal _ => []
  | .subquery q => q.occurrences
  | .verbatim _ uses => usedPlaces uses

/-- The places of the columns in a query: they stand inside it. -/
def Query.occurrences : Query → List Occurrence
  | .select source value filter =>
    (value.occurrences ++ Predicate.optionOccurrences filter).map (Occurrence.inside source)
  | .verbatim _ uses => usedPlaces uses

/-- The places of the columns in a collection. -/
def Collective.occurrences : Collective → List Occurrence
  | .values _ _ => []
  | .query _ members => members.occurrences

/-- The places of the columns in a predicate. -/
def Predicate.occurrences : Predicate → List Occurrence
  | .compare _ lhs rhs => lhs.occurrences ++ rhs.occurrences
  | .collective _ lhs rhs => lhs.occurrences ++ rhs.occurrences
  | .all parts => Predicate.listOccurrences parts
  | .verbatim _ uses => usedPlaces uses

/-- The places of the columns in a filter, if there is one. -/
def Predicate.optionOccurrences : Option Predicate → List Occurrence
  | none => []
  | some p => p.occurrences

/-- The places of the columns in some predicates. -/
def Predicate.listOccurrences : List Predicate → List Occurrence
  | [] => []
  | p :: rest => p.occurrences ++ Predicate.listOccurrences rest

end

/-! ## Sets of what occurs free -/

/-- The set holds the columns that are free at one of the places, each of them once. -/
structure ColumnSet.HoldsFree (s : ColumnSet) (places : List Occurrence) : Prop where
  ascending : s.Ascending
  mem_iff : ∀ c, c ∈ s ↔ ∃ o ∈ places, o.column = c ∧ o.IsFree

section HoldsFree

variable {s s' : ColumnSet} {places places' : List Occurrence}

theorem holdsFree_nil : ColumnSet.HoldsFree [] [] := ⟨.nil, by simp⟩

theorem holdsFree_column (c : ColumnId) : ColumnSet.HoldsFree [c] [⟨c, []⟩] where
  ascending := List.pairwise_singleton _ c
  mem_iff d := by simp [eq_comm]

theorem holdsFree_used (uses : List ColumnId) :
    (ColumnSet.ofList uses).HoldsFree (usedPlaces uses) where
  ascending := ColumnSet.ofList_ascending uses
  mem_iff c := by
    rw [ColumnSet.mem_ofList]
    constructor
    · intro used
      exact ⟨⟨c, []⟩, List.mem_map_of_mem used, rfl, Occurrence.isFree_bare c⟩
    · rintro ⟨o, place, rfl, -⟩
      obtain ⟨c, used, rfl⟩ := List.mem_map.1 place
      exact used

/-- What is free in either part is in the union, whichever of the two sets is the greater one. -/
theorem holdsFree_union (h : s.HoldsFree places) (h' : s'.HoldsFree places') :
    (ColumnSet.union s s').HoldsFree (places ++ places') where
  ascending := ColumnSet.union_ascending h.ascending h'.ascending
  mem_iff c := by
    rw [ColumnSet.mem_union, h.mem_iff, h'.mem_iff]
    simp only [List.mem_append, or_and_right, exists_or]

/-- A sub-query takes out what its table provides. -/
theorem holdsFree_without (source : Table) (h : s.HoldsFree places) :
    (s.without source.exports).HoldsFree (places.map (Occurrence.inside source)) where
  ascending := ColumnSet.without_ascending h.ascending _
  mem_iff c := by
    rw [ColumnSet.mem_without, h.mem_iff]
    constructor
    · rintro ⟨⟨o, ho, rfl, free⟩, notProvided⟩
      exact ⟨o.inside source, List.mem_map_of_mem ho, rfl,
        Occurrence.isFree_inside.2 ⟨notProvided, free⟩⟩
    · rintro ⟨inner, inside, rfl, free⟩
      obtain ⟨o, ho, rfl⟩ := List.mem_map.1 inside
      obtain ⟨notProvided, free⟩ := Occurrence.isFree_inside.1 free
      exact ⟨⟨o, ho, rfl, free⟩, notProvided⟩

end HoldsFree

/-! ## Trees import what occurs free -/

mutual

theorem holdsFree_scalar : (x : Scalar) → x.imports.HoldsFree x.occurrences
  | .column c => by
    rw [Scalar.imports, Scalar.occurrences]
    exact holdsFree_column c.id
  | .literal _ => by
    rw [Scalar.imports, Scalar.occurrences]
    exact holdsFree_nil
  | .subquery q => by
    rw [Scalar.imports, Scalar.occurrences]
    exact holdsFree_query q
  | .verbatim _ uses => by
    rw [Scalar.imports, Scalar.occurrences]
    exact holdsFree_used uses

/-- A query imports the columns that occur free in it, less those of its table. -/
theorem holdsFree_query : (q : Query) → q.imports.HoldsFree q.occurrences
  | .select source value filter => by
    rw [Query.imports, Query.occurrences]
    exact holdsFree_without source (holdsFree_union (holdsFree_scalar value)
      (holdsFree_option filter))
  | .verbatim _ uses => by
    rw [Query.imports, Query.occurrences]
    exact holdsFree_used uses

theorem holdsFree_collective : (c : Collective) → c.imports.HoldsFree c.occurrences
  | .values _ _ => by
    rw [Collective.imports, Collective.occurrences]
    exact holdsFree_nil
  | .query _ members => by
    rw [Collective.imports, Collective.occurrences]
    exact holdsFree_query members

/-- What a tree imports is an ascending list of what occurs free in it. -/
theorem holdsFree_predicate : (p : Predicate) → p.imports.HoldsFree p.occurrences
  | .compare _ lhs rhs => by
    rw [Predicate.imports, Predicate.occurrences]
    exact holdsFree_union (holdsFree_scalar lhs) (holdsFree_scalar rhs)
  | .collective _ lhs rhs => by
    rw [Predicate.imports, Predicate.occurrences]
    exact holdsFree_union (holdsFree_scalar lhs) (holdsFree_collective rhs)
  | .all parts => by
    rw [Predicate.imports, Predicate.occurrences]
    exact holdsFree_list parts
  | .verbatim _ uses => by
    rw [Predicate.imports, Predicate.occurrences]
    exact holdsFree_used uses

theorem holdsFree_option : (filter : Option Predicate) →
    (Predicate.optionImports filter).HoldsFree (Predicate.optionOccurrences filter)
  | none => by
    rw [Predicate.optionImports, Predicate.optionOccurrences]
    exact holdsFree_nil
  | some p => by
    rw [Predicate.optionImports, Predicate.optionOccurrences]
    exact holdsFree_predicate p

theorem holdsFree_list : (parts : List Predicate) →
    (Predicate.listImports parts).HoldsFree (Predicate.listOccurrences parts)
  | [] => by
    rw [Predicate.listImports, Predicate.listOccurrences]
    exact holdsFree_nil
  | p :: rest => by
    rw [Predicate.listImports, Predicate.listOccurrences]
    exact holdsFree_union (holdsFree_predicate p) (holdsFree_list rest)

end

/-- Trees of every kind import the columns that occur in them at a place around which no sub-query
provides the column, and they list each of them once, in ascending order. -/
theorem imports_free :
    (∀ p : Predicate, p.imports.Ascending ∧ ∀ c, c ∈ p.imports ↔
      ∃ o ∈ p.occurrences, o.column = c ∧ ∀ t ∈ o.within, c ∉ t.exports) ∧
    (∀ q : Query, q.imports.Ascending ∧ ∀ c, c ∈ q.imports ↔
      ∃ o ∈ q.occurrences, o.column = c ∧ ∀ t ∈ o.within, c ∉ t.exports) ∧
    (∀ l : Collective, l.imports.Ascending ∧ ∀ c, c ∈ l.imports ↔
      ∃ o ∈ l.occurrences, o.column = c ∧ ∀ t ∈ o.within, c ∉ t.exports) ∧
    ∀ x : Scalar, x.imports.Ascending ∧ ∀ c, c ∈ x.imports ↔
      ∃ o ∈ x.occurrences, o.column = c ∧ ∀ t ∈ o.within, c ∉ t.exports := by
  have plain {s : ColumnSet} {places : List Occurrence} (h : s.HoldsFree places) :
      s.Ascending ∧ ∀ c, c ∈ s ↔ ∃ o ∈ places, o.column = c ∧ ∀ t ∈ o.within, c ∉ t.exports := by
    refine ⟨h.ascending, fun c => (h.mem_iff c).trans ?_⟩
    refine exists_congr fun o => and_congr_right fun _ => and_congr_right fun same => ?_
    rw [Occurrence.IsFree, same]
  exact ⟨fun p => plain (holdsFree_predicate p), fun q => plain (holdsFree_query q),
    fun l => plain (holdsFree_collective l), fun x => plain (holdsFree_scalar x)⟩

end PooledSql
