import PooledSql.Proofs.Rendering.Naming
import PooledSql.Sql.Evaluation

/-!
# What a predicate says, and what is written for it

A predicate has a meaning of its own, which knows nothing of SQL: a comparison holds between values
that are both present and related, a comparison with a collection holds for some or for all of its
members, and the members of a sub-query are its values in the rows that its filter lets through.

What each dialect writes is read with three truth values. The dialects differ in how they say it,
and their conditions may differ in being false or unknown, but they are true together, and exactly
where the predicate holds.

Results:
* `truth_valuesForm`, `means_queryForm`: each form of a comparison with a collection says what the
  comparison says.
* `means_predicate`: what a dialect writes for a predicate is true exactly where the predicate holds.
-/

namespace PooledSql

/-- As a literal the value stands for nothing: it is absent, or a real that is no finite number. -/
def Value.isAbsent : Value → Bool
  | .null => true
  | .real x => !x.isFinite
  | _ => false

/-- What a database holds, where `V` are the values that can be present: tables, and what the
values of literals and the comparisons are to it. -/
structure Contents (V : Type) where
  /-- The rows of an occurrence of a table, each with the values of its columns. -/
  rows : Table → List (ColumnId → Option V)
  /-- What a literal stands for that stands for something. -/
  constant : Value → V
  /-- A comparison of two values that are present. -/
  related : Relation → V → V → Bool
  /-- The value of a sub-query that stands as an operand, given its values. -/
  single : List (Option V) → Option V
  related_notEqual : ∀ a b, related .notEqual a b = !related .equal a b
  related_integers : ∀ m n : Int64,
    related .equal (constant (.integer m)) (constant (.integer n)) = decide (m = n)

/-- The values of columns. -/
abbrev Assignment (V : Type) := ColumnId → Option V

/-- The values of columns in a row: those of its own table, and the others as they are outside. -/
def Assignment.enter {V : Type} (outside : Assignment V) (source : Table)
    (row : ColumnId → Option V) : Assignment V :=
  fun c => if c ∈ source.exports then row c else outside c

/-- Something holds for some of the members, or for all. -/
def Quantifier.holds {α : Type} (members : List α) (p : α → Bool) : Quantifier → Bool
  | .some => members.any p
  | .all => members.all p

namespace Contents

variable {V : Type} (w : Contents V)

/-- What a literal stands for. -/
def literal (v : Value) : Option V := if v.isAbsent then none else some (w.constant v)

/-- A comparison holds: both values are present, and related. -/
def holds (relation : Relation) : Option V → Option V → Bool
  | some a, some b => w.related relation a b
  | _, _ => false

/-- A comparison in SQL: unknown if a value is absent. -/
def compare (relation : Relation) : Option V → Option V → Sql.Truth
  | some a, some b => .ofBool (w.related relation a b)
  | _, _ => .unknown

@[simp]
theorem isYes_compare (relation : Relation) (a b : Option V) :
    (w.compare relation a b).isYes = w.holds relation a b := by
  cases a with
  | none => rfl
  | some a =>
    cases b with
    | none => rfl
    | some b => exact Sql.Truth.isYes_ofBool _

theorem compare_notEqual (a b : Option V) :
    w.compare .notEqual a b = (w.compare .equal a b).neg := by
  cases a with
  | none => rfl
  | some a =>
    cases b with
    | none => rfl
    | some b => simp only [compare, w.related_notEqual, Sql.Truth.neg_ofBool]

end Contents

/-! ## The meaning of a predicate -/

mutual

/-- The value of a scalar. Text of another hand is not understood. -/
def Scalar.meaning {V : Type} (w : Contents V) (e : Assignment V) : Scalar → Option V
  | .column c => e c.id
  | .literal v => w.literal v
  | .subquery q => w.single (q.members w e)
  | .verbatim _ _ => w.single []

/-- The members that a sub-query provides: its values in the rows that its filter lets through. -/
def Query.members {V : Type} (w : Contents V) (e : Assignment V) : Query → List (Option V)
  | .select source value filter =>
    (((w.rows source).map (e.enter source)).filter fun row =>
      Predicate.optionHolds w row filter).map fun row => value.meaning w row
  | .verbatim _ _ => []

/-- A comparison holds across a collection, given the value on its left. -/
def Collective.holds {V : Type} (w : Contents V) (e : Assignment V) (relation : Relation)
    (lhs : Option V) : Collective → Bool
  | .values quantifier members => quantifier.holds (members.map w.literal) (w.holds relation lhs)
  | .query quantifier members => quantifier.holds (members.members w e) (w.holds relation lhs)

/-- A predicate holds. -/
def Predicate.holds {V : Type} (w : Contents V) (e : Assignment V) : Predicate → Bool
  | .compare relation lhs rhs => w.holds relation (lhs.meaning w e) (rhs.meaning w e)
  | .collective relation lhs rhs => rhs.holds w e relation (lhs.meaning w e)
  | .all parts => Predicate.listHolds w e parts
  | .verbatim _ _ => false

/-- A filter lets a row through. -/
def Predicate.optionHolds {V : Type} (w : Contents V) (e : Assignment V) : Option Predicate → Bool
  | none => true
  | some p => p.holds w e

/-- All of some predicates hold. -/
def Predicate.listHolds {V : Type} (w : Contents V) (e : Assignment V) : List Predicate → Bool
  | [] => true
  | p :: rest => p.holds w e && Predicate.listHolds w e rest

end

/-! ## The meaning of what is written -/

/-- What is known at a place of a written text: the values of the columns around, and those of the
sub-queries that go by a name. -/
structure Surroundings (V : Type) where
  columns : Assignment V
  labels : String → Option V

/-- How written conditions are read over what a database holds. A reference to a column means the
column itself, whatever its names are. -/
def Contents.reading {V : Type} (w : Contents V) : Sql.Reading (Surroundings V) (Option V) where
  column s c := s.columns c.id
  member s label := s.labels label
  rows s _ source _ := (w.rows source).map fun row => { s with columns := s.columns.enter source row }
  bind s label v := { s with labels := fun l => if l = label then v else s.labels l }
  literal := w.literal
  single := w.single
  compare := w.compare

section Fields

variable {V : Type} (w : Contents V) (s : Surroundings V)

@[simp] theorem reading_column (c : Column) : w.reading.column s c = s.columns c.id := rfl

@[simp] theorem reading_literal (v : Value) : w.reading.literal v = w.literal v := rfl

@[simp] theorem reading_single (l : List (Option V)) : w.reading.single l = w.single l := rfl

@[simp] theorem reading_compare (relation : Relation) (a b : Option V) :
    w.reading.compare relation a b = w.compare relation a b := rfl

end Fields

namespace Sql

section Forms

variable {V : Type} (w : Contents V)

/-- Wherever it stands, the operand has the value that the columns around give. -/
def Operand.Means (o : Operand) (f : Assignment V → Option V) : Prop :=
  ∀ s, o.value w.reading s = f s.columns

/-- Wherever it stands, the sub-query has the values that the columns around give. -/
def Subquery.Means (q : Subquery) (f : Assignment V → List (Option V)) : Prop :=
  ∀ s, q.values w.reading s = f s.columns

/-- Wherever it stands, the condition is true where the columns around say so. -/
def Condition.Means (c : Condition) (f : Assignment V → Bool) : Prop :=
  ∀ s, (c.truth w.reading s).isYes = f s.columns

/-- A chain of comparisons holds for some, or for all, when they do. -/
theorem isYes_across (quantifier : Quantifier) (parts : List Truth) :
    (Truth.across quantifier parts).isYes = quantifier.holds parts Truth.isYes := by
  cases quantifier with
  | some => exact Truth.isYes_any parts
  | all => exact Truth.isYes_all parts

theorem holds_map {α β : Type} (quantifier : Quantifier) (f : α → β) (l : List α) (p : β → Bool) :
    quantifier.holds (l.map f) p = quantifier.holds l fun a => p (f a) := by
  cases quantifier <;> simp [Quantifier.holds, Function.comp_def]

/-- `IN` stands for equality with some member, `NOT IN` for difference from all. -/
theorem membership?_eq_some {relation : Relation} {quantifier : Quantifier} {negated : Bool}
    (h : membership? relation quantifier = some negated) :
    (relation = .equal ∧ quantifier = .some ∧ negated = false) ∨
      (relation = .notEqual ∧ quantifier = .all ∧ negated = true) := by
  cases relation <;> cases quantifier <;> simp_all [membership?]

/-- A membership test has the truth value of the comparison that it stands for. -/
theorem truth_membership {relation : Relation} {quantifier : Quantifier} {negated : Bool}
    (h : membership? relation quantifier = some negated) (a : Option V)
    (members : List (Option V)) :
    Truth.maybeNot negated (w.reading.isIn a members) =
      w.reading.across relation quantifier a members := by
  rcases membership?_eq_some h with ⟨rfl, rfl, rfl⟩ | ⟨rfl, rfl, rfl⟩
  · rfl
  · have opposite : w.compare .notEqual a = fun b => (w.compare .equal a b).neg :=
      funext (w.compare_notEqual a)
    simp only [Truth.maybeNot, if_true, Reading.isIn, Reading.across, Truth.across,
      Contents.reading, Truth.neg_any, List.map_map, opposite]
    rfl

/-- Every form of a comparison with a list has the truth value of the comparison itself. -/
theorem truth_valuesForm {relation : Relation} {quantifier : Quantifier} {members : List Value}
    {c : Condition} {f : Assignment V → Option V}
    (form : ValuesForm relation quantifier (Operand.Means w · f) members c) (s : Surroundings V) :
    c.truth w.reading s =
      w.reading.across relation quantifier (f s.columns) (members.map w.literal) := by
  cases form with
  | vacuous =>
    have compared (m : Int64) : w.compare .equal (w.literal (.integer 1)) (w.literal (.integer m)) =
        .ofBool (decide (1 = m)) := by
      simp [Contents.literal, Value.isAbsent, Contents.compare, w.related_integers]
    cases quantifier with
    | some => exact compared 0
    | all => exact compared 1
  | membership form left =>
    rw [Condition.truth, left s]
    exact truth_membership w form _ _
  | chain comparisons =>
    rename_i parts
    have each : parts.map (fun c => c.truth w.reading s) =
        (members.map w.literal).map (w.reading.compare relation (f s.columns)) := by
      induction comparisons with
      | nil => rfl
      | cons first _ ih =>
        obtain ⟨lhs, left, rfl⟩ := first
        rw [List.map_cons, ih, Condition.truth, left s]
        rfl
    cases quantifier with
    | some => exact congrArg Truth.any ((listTruth_eq_map _ _ _).trans each)
    | all => exact congrArg Truth.all ((listTruth_eq_map _ _ _).trans each)

/-- Every form of a comparison with a sub-query is true exactly where the comparison holds. In the
emulation a comparison that is unknown counts as false for some member and as a counterexample for
all of them, which is what a filter makes of it anyway. -/
theorem means_queryForm {d : Dialect} {relation : Relation} {quantifier : Quantifier}
    {c : Condition} {f : Assignment V → Option V} {g : Assignment V → List (Option V)}
    (form : QueryForm d relation quantifier (Operand.Means w · f) (Subquery.Means w · g) c) :
    c.Means w fun e => quantifier.holds (g e) (w.holds relation (f e)) := by
  intro s
  have across : (w.reading.across relation quantifier (f s.columns) (g s.columns)).isYes =
      quantifier.holds (g s.columns) (w.holds relation (f s.columns)) := by
    rw [Reading.across, isYes_across, holds_map]
    exact congrArg (quantifier.holds _) (funext fun b => w.isYes_compare relation _ b)
  cases form with
  | membership form left right =>
    rw [Condition.truth, left s, right s, truth_membership w form, across]
  | quantified native left right =>
    rw [Condition.truth, left s, right s, across]
  | existence emulated left right =>
    rename_i label lhs members
    have compared (v : Option V) :
        ((Condition.compare relation lhs (.member label)).truth w.reading
          (w.reading.bind s label v)).isYes = w.holds relation (f s.columns) v := by
      rw [Condition.truth, left, Operand.value, ← w.isYes_compare]
      simp [Contents.reading]
    cases quantifier with
    | some =>
      rw [existence, Condition.truth, right s, funext compared]
      exact Truth.isYes_ofBool _
    | all =>
      -- no member is a counterexample
      have denied (v : Option V) :
          ((Condition.notTrue (.compare relation lhs (.member label))).truth w.reading
            (w.reading.bind s label v)).isYes = !w.holds relation (f s.columns) v := by
        rw [Condition.truth, compared, Truth.isYes_ofBool]
      rw [existence, Condition.truth, right s, funext denied, ← List.not_all_eq_any_not]
      simp only [Truth.maybeNot, if_true, Truth.isYes_neg_ofBool, Bool.not_not]
      rfl

end Forms

/-! ## Writing keeps the meaning -/

section Writing

variable {V : Type} (w : Contents V) (d : Dialect)

mutual

theorem means_scalar : (x : Scalar) →
    Always (Scalar.encode d x) (Operand.Means w · fun e => x.meaning w e)
  | .column c => always_pure fun s => by simp only [Operand.value, Scalar.meaning, reading_column]
  | .literal v => always_pure fun s => by
    simp only [Operand.value, Scalar.meaning, reading_literal]
  | .subquery q =>
    always_bind (means_query scalarAlias q) fun written hw => always_pure fun s => by
      simp only [Operand.value, Scalar.meaning, hw s, reading_single]
  | .verbatim text _ => always_pure fun s => by
    simp only [Operand.value, Scalar.meaning, reading_single]

/-- A sub-query has the members of the query it is written for, in whatever scope. -/
theorem means_query (label : String) : (q : Query) →
    Always (Query.encode d label q) (Subquery.Means w · fun e => q.members w e)
  | .select source value filter =>
    always_bind (means_scalar value) fun v hv =>
      always_bind (means_option filter) fun c hc => always_pure fun s => by
        simp only [Subquery.values, Query.members, hc, hv _]
        simp only [Contents.reading, List.filter_map, List.map_map, Function.comp_def]
  | .verbatim text _ => always_pure fun s => by simp only [Subquery.values, Query.members]

theorem means_collective (relation : Relation) {lhs : Naming Operand}
    {f : Assignment V → Option V} (hl : Always lhs (Operand.Means w · f)) : (c : Collective) →
    Always (Collective.encode d relation lhs c)
      (Condition.Means w · fun e => c.holds w e relation (f e))
  | .values quantifier members =>
    always_mono (always_encodeValues members hl) fun c form s => by
      rw [truth_valuesForm w form s, Reading.across, isYes_across, holds_map]
      simp only [Collective.holds, reading_compare, Contents.isYes_compare]
  | .query quantifier members =>
    always_mono (always_encodeQuery d hl (means_query valueAlias members)) fun c form s => by
      simp only [means_queryForm w form s, Collective.holds]

/-- Whatever name an emulation gets, the condition holds exactly when the predicate does. -/
theorem means_predicate : (p : Predicate) →
    Always (Predicate.encode d p) (Condition.Means w · fun e => p.holds w e)
  | .compare relation lhs rhs =>
    always_bind (means_scalar lhs) fun l hl =>
      always_bind (means_scalar rhs) fun r hr => always_pure fun s => by
        simp only [Condition.truth, Predicate.holds, hl s, hr s, reading_compare,
          Contents.isYes_compare]
  | .collective relation lhs rhs =>
    always_mono (means_collective relation (means_scalar lhs) rhs) fun c hc s => by
      simp only [hc s, Predicate.holds]
  | .all parts =>
    always_bind (means_list parts) fun cs hcs => always_pure fun s => by
      simp only [Condition.truth, Truth.isYes_all, Predicate.holds, listTruth_eq_map, List.all_map]
      exact hcs s
  | .verbatim text _ => always_pure fun s => by
    simp only [Condition.truth, Predicate.holds, Truth.isYes]

theorem means_option : (filter : Option Predicate) →
    Always (Predicate.encodeOption d filter) fun c =>
      ∀ s, Condition.admits w.reading s c = Predicate.optionHolds w s.columns filter
  | none => always_pure fun s => by rw [Condition.admits, Predicate.optionHolds]
  | some p =>
    always_bind (means_predicate p) fun c hc => always_pure fun s => by
      rw [Condition.admits, Predicate.optionHolds, hc s]

theorem means_list : (parts : List Predicate) →
    Always (Predicate.encodeList d parts) fun cs =>
      ∀ s, (cs.all fun c => (c.truth w.reading s).isYes) = Predicate.listHolds w s.columns parts
  | [] => always_pure fun s => by rw [Predicate.listHolds]; rfl
  | p :: rest =>
    always_bind (means_predicate p) fun c hc =>
      always_bind (means_list rest) fun cs hcs => always_pure fun s => by
        rw [List.all_cons, Predicate.listHolds, hc s, hcs s]

end

end Writing

end Sql

end PooledSql
