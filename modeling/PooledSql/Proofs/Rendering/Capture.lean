import PooledSql.Proofs.Rendering.References

/-!
# Names that sub-queries take

Where a dialect has no comparison with some or all values of a sub-query, the sub-query takes a name,
and the left operand moves into its scope. The name comes from a count and not from the names in the
tree. If the left operand is a column of a table that goes by that very name, the reference means the
values of the sub-query instead of the table.

Which comparisons take names, and in which order, depends on the tree alone. So it can be said of a
tree whether that happens, and where.

Results:
* `emulations_predicate`: the comparisons of the tree take one name each, in the order in which they
  are written.
* `captures_iff`: a reference is captured exactly if a left operand is a column of a table with the
  name of its place.
* `captured_column`: it happens to a table that goes by `q1`.
-/

namespace PooledSql

/-! ## Comparisons that take names -/

/-- The dialect has to emulate the comparison with the values of a sub-query. -/
def Dialect.emulates (d : Dialect) (relation : Relation) (quantifier : Quantifier) : Bool :=
  (Sql.membership? relation quantifier).isNone && !d.hasQuantifiedSubquery

section Emulated

variable (d : Dialect)

mutual

/-- The left operands of the comparisons in a query that the dialect has to emulate, outer ones
first. -/
def Query.emulated : Query → List Scalar
  | .select _ _ filter => Predicate.optionEmulated filter
  | .verbatim _ _ => []

/-- The left operands of the comparisons in a predicate that the dialect has to emulate, outer ones
first. -/
def Predicate.emulated : Predicate → List Scalar
  | .compare _ _ _ => []
  | .collective _ _ (.values _ _) => []
  | .collective relation lhs (.query quantifier members) =>
    if d.emulates relation quantifier then lhs :: members.emulated else members.emulated
  | .all _ => []
  | .verbatim _ _ => []

/-- The left operands of the comparisons in a filter that the dialect has to emulate, if there is
one. -/
def Predicate.optionEmulated : Option Predicate → List Scalar
  | none => []
  | some p => p.emulated

end

end Emulated

namespace Sql

/-- A comparison in a condition on existence: the name of the sub-query, and the operand that its
values are compared with. -/
structure Emulation where
  label : String
  lhs : Operand

/-- The left operand of a comparison, also of one that is to be not true. -/
def Condition.compared? : Condition → Option Operand
  | .compare _ lhs _ => some lhs
  | .notTrue part => part.compared?
  | _ => none

mutual

/-- The comparisons in conditions on existence in an operand. -/
def Operand.emulations : Operand → List Emulation
  | .subquery q => q.emulations
  | _ => []

/-- The comparisons in conditions on existence in a condition, outer ones first. -/
def Condition.emulations : Condition → List Emulation
  | .compare _ lhs rhs => lhs.emulations ++ rhs.emulations
  | .inValues _ lhs _ => lhs.emulations
  | .inQuery _ lhs members => lhs.emulations ++ members.emulations
  | .quantified _ _ lhs members => lhs.emulations ++ members.emulations
  | .existing _ members label filter =>
    filter.compared?.toList.map (Emulation.mk label) ++ members.emulations ++ filter.emulations
  | .notTrue part => part.emulations
  | .any parts => Condition.listEmulations parts
  | .all parts => Condition.listEmulations parts
  | .verbatim _ => []

/-- The comparisons in conditions on existence in any of some conditions. -/
def Condition.listEmulations : List Condition → List Emulation
  | [] => []
  | c :: rest => c.emulations ++ Condition.listEmulations rest

/-- The comparisons in conditions on existence in a filter, if there is one. -/
def Condition.optionEmulations : Option Condition → List Emulation
  | none => []
  | some c => c.emulations

/-- The comparisons in conditions on existence in a sub-query. -/
def Subquery.emulations : Subquery → List Emulation
  | .select value _ _ filter => value.emulations ++ Condition.optionEmulations filter
  | .verbatim _ => []

end

/-- A reference in the left operand has the name of the sub-query in front of it. -/
def Emulation.Captures (e : Emulation) : Prop :=
  ∃ r ∈ e.lhs.references fun _ => [], r.column.table = e.label

/-! ## Every comparison takes the next name -/

/-- Left operands with the names that they get if `taken` are taken before. -/
def numbered (taken : Nat) : List Scalar → List Emulation
  | [] => []
  | x :: rest => ⟨"q" ++ toString (taken + 1), Scalar.operand x⟩ :: numbered (taken + 1) rest

theorem mem_numbered {e : Emulation} {taken : Nat} {l : List Scalar} :
    e ∈ numbered taken l ↔
      ∃ i x, l[i]? = some x ∧ e = ⟨"q" ++ toString (taken + i + 1), Scalar.operand x⟩ := by
  induction l generalizing taken with
  | nil => simp [numbered]
  | cons x rest ih =>
    rw [numbered, List.mem_cons, ih]
    constructor
    · rintro (rfl | ⟨i, y, found, rfl⟩)
      · exact ⟨0, x, rfl, rfl⟩
      · refine ⟨i + 1, y, found, ?_⟩
        rw [show taken + (i + 1) + 1 = taken + 1 + i + 1 by omega]
    · rintro ⟨i, y, found, rfl⟩
      cases i with
      | zero =>
        cases found
        exact .inl rfl
      | succ i =>
        refine .inr ⟨i, y, found, ?_⟩
        rw [show taken + (i + 1) + 1 = taken + 1 + i + 1 by omega]

theorem emulations_operand {o : Operand} (readable : o.isReadable = true) : o.emulations = [] := by
  cases o with
  | column | member | literal => rfl
  | subquery | verbatim => simp [Operand.isReadable] at readable

theorem emulations_valuesCondition (relation : Relation) (quantifier : Quantifier) {lhs : Operand}
    (members : List Value) (readable : lhs.isReadable = true) :
    (valuesCondition relation quantifier lhs members).emulations = [] := by
  have none := emulations_operand readable
  have chained (members : List Value) : Condition.listEmulations
      (members.map fun v => .compare relation lhs (.literal v)) = [] := by
    induction members with
    | nil => rfl
    | cons v rest ih =>
      have literal : (Operand.literal v).emulations = [] := rfl
      rw [List.map_cons, Condition.listEmulations, ih, Condition.emulations, none, literal]
      rfl
  unfold valuesCondition
  split
  · cases quantifier <;> rfl
  · split
    · rw [Condition.emulations, none]
    · cases quantifier <;> rw [chain, Condition.emulations, chained]

/-- The comparisons in what is written take the next names, one each. -/
def Numbers {α : Type} (emulations : α → List Emulation) (writing : Naming α)
    (lhs : List Scalar) : Prop :=
  ∀ taken, emulations (writing.run taken).1 = numbered taken lhs ∧
    (writing.run taken).2 = taken + lhs.length

theorem numbers_pure {α : Type} {emulations : α → List Emulation} {a : α}
    (none : emulations a = []) : Numbers emulations (pure a) [] :=
  fun _ => ⟨none, rfl⟩

theorem numbers_map {α β : Type} {emulations : α → List Emulation} {emulations' : β → List Emulation}
    {writing : Naming α} {lhs : List Scalar} (h : Numbers emulations writing lhs) {f : α → β}
    (same : ∀ a, emulations' (f a) = emulations a) :
    Numbers emulations' (writing >>= fun a => pure (f a)) lhs :=
  fun taken => ⟨(same _).trans (h taken).1, (h taken).2⟩

/-- A comparison that is emulated takes the next name, and the query in it those after. -/
theorem numbers_encodeQuery {d : Dialect} {relation : Relation} {quantifier : Quantifier}
    {x : Scalar} {members : Naming Subquery} {inner : List Scalar} (own : x.isOwn = true)
    (h : Numbers Subquery.emulations members inner) :
    Numbers Condition.emulations
      (encodeQuery d relation quantifier (pure (Scalar.operand x)) members)
      (if d.emulates relation quantifier then x :: inner else inner) := by
  have none := emulations_operand (readable_operand own)
  unfold encodeQuery Dialect.emulates
  cases membership? relation quantifier with
  | some negated =>
    rw [pure_bind]
    refine numbers_map h fun m => ?_
    rw [Condition.emulations, none, List.nil_append]
  | none =>
    cases d.hasQuantifiedSubquery with
    | true =>
      refine numbers_map h fun m => ?_
      rw [Condition.emulations, none, List.nil_append]
    | false =>
      intro taken
      -- the name is taken before the members are written
      obtain ⟨within, after⟩ := h (taken + 1)
      have member (label : String) : (Operand.member label).emulations = [] := rfl
      have emulated (m : Subquery) (label : String) :
          (existence m label (.compare relation (Scalar.operand x) (.member label))
            quantifier).emulations = ⟨label, Scalar.operand x⟩ :: m.emulations := by
        cases quantifier <;>
          simp [existence, Condition.emulations, Condition.compared?, none, member]
      refine ⟨?_, ?_⟩
      · show _ = numbered taken (x :: inner)
        rw [numbered, ← within]
        exact emulated _ _
      · show _ = taken + (inner.length + 1)
        rw [show taken + (inner.length + 1) = taken + 1 + inner.length by omega]
        exact after

section Trees

variable {d : Dialect}

mutual

/-- The emulations of a written query are those of the query, numbered in their order. -/
theorem emulations_query (label : String) : (q : Query) → q.isOwn = true →
    Numbers Subquery.emulations (Query.encode d label q) (q.emulated d)
  | .select source value filter, own => by
    simp only [Query.isOwn, Bool.and_eq_true] at own
    rw [Query.encode, encode_scalar d own.1, pure_bind, Query.emulated]
    refine numbers_map (emulations_option filter own.2) fun c => ?_
    rw [Subquery.emulations, emulations_operand (readable_operand own.1), List.nil_append]
  | .verbatim _ _, own => by simp [Query.isOwn] at own

/-- The comparisons of the tree take one name each, in the order in which they are written. -/
theorem emulations_predicate : (p : Predicate) → p.isOwn = true →
    Numbers Condition.emulations (Predicate.encode d p) (p.emulated d)
  | .compare relation lhs rhs, own => by
    simp only [Predicate.isOwn, Bool.and_eq_true] at own
    rw [Predicate.encode, encode_scalar d own.1, encode_scalar d own.2,
      Predicate.emulated]
    refine numbers_pure ?_
    rw [Condition.emulations, emulations_operand (readable_operand own.1),
      emulations_operand (readable_operand own.2), List.nil_append]
  | .collective relation lhs (.values quantifier members), own => by
    simp only [Predicate.isOwn, Bool.and_eq_true] at own
    rw [Predicate.encode, Collective.encode, encode_scalar d own.1, encodeValues_pure,
      Predicate.emulated]
    exact numbers_pure (emulations_valuesCondition _ _ members (readable_operand own.1))
  | .collective relation lhs (.query quantifier members), own => by
    simp only [Predicate.isOwn, Collective.isOwn, Bool.and_eq_true] at own
    rw [Predicate.encode, Collective.encode, encode_scalar d own.1, Predicate.emulated]
    exact numbers_encodeQuery own.1 (emulations_query valueAlias members own.2)
  | .all _, own => by simp [Predicate.isOwn] at own
  | .verbatim _ _, own => by simp [Predicate.isOwn] at own

theorem emulations_option : (filter : Option Predicate) → Predicate.optionIsOwn filter = true →
    Numbers Condition.optionEmulations (Predicate.encodeOption d filter)
      (Predicate.optionEmulated d filter)
  | none, _ => by
    rw [Predicate.encodeOption, Predicate.optionEmulated]
    exact numbers_pure rfl
  | some p, own => by
    rw [Predicate.encodeOption, Predicate.optionEmulated]
    exact numbers_map (emulations_predicate p own) fun c => by rw [Condition.optionEmulations]

end

mutual

theorem emulated_query (native : d.hasQuantifiedSubquery = true) : (q : Query) → q.emulated d = []
  | .select source value filter => by rw [Query.emulated, emulated_option native filter]
  | .verbatim _ _ => by rw [Query.emulated]

/-- A dialect that has the comparisons emulates none. -/
theorem emulated_predicate (native : d.hasQuantifiedSubquery = true) :
    (p : Predicate) → p.emulated d = []
  | .compare _ _ _ => by rw [Predicate.emulated]
  | .collective _ _ (.values _ _) => by rw [Predicate.emulated]
  | .collective relation lhs (.query quantifier members) => by
    have never : d.emulates relation quantifier = false := by simp [Dialect.emulates, native]
    rw [Predicate.emulated, never, emulated_query native members]
    rfl
  | .all _ => by rw [Predicate.emulated]
  | .verbatim _ _ => by rw [Predicate.emulated]

theorem emulated_option (native : d.hasQuantifiedSubquery = true) :
    (filter : Option Predicate) → Predicate.optionEmulated d filter = []
  | none => by rw [Predicate.optionEmulated]
  | some p => by rw [Predicate.optionEmulated, emulated_predicate native p]

end

end Trees

/-! ## Where a name captures a reference -/

/-- Only a column can be captured, and only one whose table has the emulation's name. -/
theorem captures_operand {x : Scalar} {label : String} :
    Emulation.Captures ⟨label, Scalar.operand x⟩ ↔ ∃ c, x = .column c ∧ c.table = label := by
  cases x <;> simp [Emulation.Captures, Scalar.operand, Operand.references]

/-- The comparisons that a dialect emulates get the names that follow those taken before, in their
order in the tree, and one of the names captures a reference exactly if it is the name of the table
whose column is compared there. A dialect that has the comparisons takes no name. -/
theorem captures_iff {p : Predicate} (own : p.isOwn = true) (d : Dialect) (taken : Nat) :
    ((Predicate.encode d p).run taken).1.emulations = numbered taken (p.emulated d) ∧
      ((∃ e ∈ ((Predicate.encode d p).run taken).1.emulations, e.Captures) ↔
        ∃ i c, (p.emulated d)[i]? = some (.column c) ∧
          c.table = "q" ++ toString (taken + i + 1)) ∧
      (d.hasQuantifiedSubquery = true →
        ((Predicate.encode d p).run taken).1.emulations = []) := by
  have written := (emulations_predicate (d := d) p own taken).1
  refine ⟨written, ?_, fun native => by rw [written, emulated_predicate native, numbered]⟩
  rw [written]
  constructor
  · rintro ⟨e, he, captures⟩
    obtain ⟨i, x, found, rfl⟩ := mem_numbered.1 he
    obtain ⟨c, rfl, same⟩ := captures_operand.1 captures
    exact ⟨i, c, found, same⟩
  · rintro ⟨i, c, found, same⟩
    exact ⟨_, mem_numbered.2 ⟨i, _, found, rfl⟩, captures_operand.2 ⟨c, rfl, same⟩⟩

/-- A table that goes by the name that the first sub-query takes. -/
def shelf : Table := ⟨"items", "q1", [⟨⟨1⟩, "q1", "value"⟩]⟩

/-- Another table. -/
def other : Table := ⟨"other", "other", [⟨⟨2⟩, "other", "x"⟩]⟩

/-- A value greater than each one of the other table. -/
def exceedsOther : Predicate :=
  .collective .greater (.column ⟨⟨1⟩, "q1", "value"⟩)
    (.query .all (.select other (.column ⟨⟨2⟩, "other", "x"⟩) none))

/-- The first name captures the reference to the column, and the second one would not. -/
theorem captures_iff_exceedsOther : exceedsOther.isOwn = true ∧
    (∃ e ∈ ((Predicate.encode .sqlite exceedsOther).run 0).1.emulations, e.Captures) ∧
      ¬ ∃ e ∈ ((Predicate.encode .sqlite exceedsOther).run 1).1.emulations, e.Captures := by
  have own : exceedsOther.isOwn = true := rfl
  have emulated : exceedsOther.emulated .sqlite = [.column ⟨⟨1⟩, "q1", "value"⟩] := rfl
  refine ⟨own, (captures_iff own .sqlite 0).2.1.2 ⟨0, _, rfl, rfl⟩, fun captured => ?_⟩
  obtain ⟨i, c, found, same⟩ := (captures_iff own .sqlite 1).2.1.1 captured
  rw [emulated] at found
  cases i with
  | zero =>
    cases found
    exact absurd same (by decide)
  | succ i => cases found

/-- It is not so that over tables that can be declared no reference is captured. -/
theorem captured_column : ¬ ∀ (p : Predicate) (next : Nat) (tables : List Table), Made next tables →
    p.isOwn = true → (p.IsFormed tables fun _ => []) → ∀ taken,
      ∀ e ∈ ((Predicate.encode .sqlite p).run taken).1.emulations, ¬ e.Captures := by
  intro never
  have first : Table.declare 1 "items" "q1" ["value"] = (.ok shelf, 2) := by decide
  have second : Table.declare 2 "other" "other" ["x"] = (.ok other, 3) := by decide
  have made : Made 3 [other, shelf] := (Made.start.declared first).declared second
  have formed : exceedsOther.IsFormed [other, shelf] fun _ => [] := by
    simp [exceedsOther, Predicate.IsFormed, Collective.IsFormed, Query.IsFormed, Scalar.IsFormed,
      Predicate.OptionIsFormed, shelf, other]
  refine never exceedsOther 3 _ made rfl formed 0 ⟨"q1", .column ⟨⟨1⟩, "q1", "value"⟩⟩ ?_ ?_
  · exact List.mem_cons_self
  · exact ⟨⟨⟨⟨1⟩, "q1", "value"⟩, []⟩, List.mem_cons_self, rfl⟩

end Sql

end PooledSql
