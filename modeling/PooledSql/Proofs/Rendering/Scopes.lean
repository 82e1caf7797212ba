import PooledSql.Proofs.Agreement
import PooledSql.Proofs.Rendering.References

/-!
# Names in nested sub-queries

Columns are tracked by their identities, but the text refers to them by the names of their tables. A
name means the innermost sub-query around it whose `FROM` introduces the name, and the statement
around all of them if none does. Nothing keeps a sub-query from introducing a name that is in use
around it. Then a reference to the outer table means the inner one, and what was to depend on the row
outside depends on it no more.

A reference is *obscured* if that happens to it: further in than the sub-queries that provide the
column, there is one that goes by the name of the column's table. It can be told from the tree.

Results:
* `faithful_iff`: a reference means what it has to exactly if it is not obscured.
* `mem_references_predicate`: the text refers to what the tree mentions, in the same sub-queries.
* `all_faithful_iff`: so the text of a tree keeps every reference exactly if the tree obscures none.
* `obscured_reference`: a table nested in itself is a tree that does.
-/

namespace PooledSql

namespace Table

/-- In a `FROM` the table introduces the name. -/
def introduces (t : Table) (name : String) : Bool :=
  (Sql.sourcePieces t).getLast? == some (.name name)

theorem introduces_iff {t : Table} {name : String} : t.introduces name = true ↔ t.label = name := by
  simp [introduces, Sql.getLast?_sourcePieces, Sql.Piece.name]

end Table

/-! ## What a name means -/

namespace Reference

/-- The tables of the sub-queries around the reference, innermost first. -/
def outward (r : Reference) : List Table := r.within.reverse

/-- The table of the sub-query that the name in front of the column means, if it means one. -/
def target? (r : Reference) : Option Table :=
  r.outward.find? fun t => t.introduces r.column.table

/-- The name means a sub-query that provides the column, and none if no sub-query provides it. -/
def IsFaithful (r : Reference) : Prop :=
  (r.isOpen = true → r.target? = none) ∧
    (r.isOpen = false → ∃ t, r.target? = some t ∧ r.column.id ∈ t.exports)

/-- Of the sub-queries that provide the column or go by the name of its table, the innermost one does
not provide it. -/
def isObscured (r : Reference) : Bool :=
  (r.outward.find? fun t => t.exports.contains r.column.id || t.label == r.column.table).any
    fun t => !t.exports.contains r.column.id

variable {r : Reference}

/-- A reference is open if no table around it exports its column. -/
theorem isOpen_eq_outward (r : Reference) :
    r.isOpen = r.outward.all fun t => !t.exports.contains r.column.id :=
  List.all_reverse.symm

/-- A reference means what it has to exactly if it is not obscured, where the tables that provide its
column go by the name in front of it. -/
theorem faithful_iff (labelled : ∀ t ∈ r.within, r.column.id ∈ t.exports → t.label = r.column.table) :
    r.IsFaithful ↔ r.isObscured = false := by
  have named : ∀ t ∈ r.outward, r.column.id ∈ t.exports → t.label = r.column.table :=
    fun t ht => labelled t (List.mem_reverse.1 ht)
  rw [IsFaithful, isOpen_eq_outward, target?, isObscured]
  -- from the reference outwards, up to the first sub-query that matters
  generalize r.outward = around at named ⊢
  induction around with
  | nil => simp
  | cons t further ih =>
    have onward := ih fun u hu => named u (List.mem_cons_of_mem _ hu)
    by_cases provides : r.column.id ∈ t.exports
    · have introduced := Table.introduces_iff.2 (named t List.mem_cons_self provides)
      simp [provides, introduced]
    · by_cases label : t.label = r.column.table
      · simp [provides, Table.introduces_iff.2 label, label]
      · have other : t.introduces r.column.table = false := by
          simpa [← Table.introduces_iff] using label
        simpa [provides, other, label] using onward

end Reference

section Tables

variable {next : Nat} {tables : List Table} {r : Reference}

/-- What provides the column is its table, which goes by the name in front of it. -/
theorem Reference.IsMade.labelled (known : r.IsMade tables) (made : Made next tables) :
    ∀ t ∈ r.within, r.column.id ∈ t.exports → t.label = r.column.table := by
  obtain ⟨⟨home, hhome, ofHome⟩, around⟩ := known
  intro t ht provides
  obtain ⟨c, ofTable, same⟩ := List.mem_map.1 (ColumnSet.mem_ofList.1 provides)
  have one : t = home := made.unique (around t ht) hhome ofTable ofHome same
  rw [one, (made.labelled home hhome _ ofHome).1]

/-- Where no two tables go by one name, no reference is obscured. -/
theorem Reference.IsMade.not_obscured (known : r.IsMade tables) (made : Made next tables)
    (distinct : ∀ t ∈ tables, ∀ t' ∈ tables, t.label = t'.label → t = t') :
    r.isObscured = false := by
  obtain ⟨⟨home, hhome, ofHome⟩, around⟩ := known
  rw [isObscured, Option.any_eq_false]
  intro t found
  have known : t ∈ tables := around t (List.mem_reverse.1 (List.mem_of_find?_eq_some found))
  have either := List.find?_some found
  rw [Bool.or_eq_true, beq_iff_eq, (made.labelled home hhome _ ofHome).1] at either
  rcases either with provides | label
  · simpa using provides
  · -- the name belongs to the table of the column, which provides the column
    have provides : r.column.id ∈ t.exports := by
      rw [distinct t known home hhome label]
      exact ColumnSet.mem_ofList.2 (List.mem_map_of_mem ofHome)
    simp [provides]

end Tables

/-! ## What a tree mentions -/

/-- The column that a scalar mentions, if it is one. -/
def Scalar.mentions : Scalar → List Reference
  | .column c => [⟨c, []⟩]
  | .literal _ => []
  | .subquery _ => []
  | .verbatim _ _ => []

mutual

/-- The columns that a query mentions, with the sub-queries that they are mentioned in. -/
def Query.mentions : Query → List Reference
  | .select source value filter =>
    (value.mentions ++ Predicate.optionMentions filter).map (Reference.inside source)
  | .verbatim _ _ => []

/-- The columns that a predicate mentions, with the sub-queries that they are mentioned in. What is
compared with an empty list does not count, since it is not written. -/
def Predicate.mentions : Predicate → List Reference
  | .compare _ lhs rhs => lhs.mentions ++ rhs.mentions
  | .collective _ lhs (.values _ members) => if members.isEmpty then [] else lhs.mentions
  | .collective _ lhs (.query _ members) => lhs.mentions ++ members.mentions
  | .all _ => []
  | .verbatim _ _ => []

/-- The columns that a filter mentions, if there is one. -/
def Predicate.optionMentions : Option Predicate → List Reference
  | none => []
  | some p => p.mentions

end

namespace Sql

section Writing

variable {d : Dialect} {relation : Relation} {quantifier : Quantifier} {r : Reference}

theorem references_operand (x : Scalar) :
    ((Scalar.operand x).references fun _ => []) = x.mentions := by
  cases x <;> rfl

theorem mem_references_valuesCondition (x : Scalar) (members : List Value) :
    (r ∈ (valuesCondition relation quantifier (Scalar.operand x) members).references fun _ => []) ↔
      r ∈ if members.isEmpty then [] else x.mentions := by
  have literal (v : Value) : ((Operand.literal v).references fun _ => []) = [] := rfl
  unfold valuesCondition
  split
  · cases quantifier <;> simp [vacuous, Condition.references, literal]
  · rename_i some'
    obtain ⟨v, hv⟩ := List.exists_mem_of_ne_nil members (by simpa using some')
    split
    · rw [Condition.references, references_operand]
    · have chained : (r ∈ Condition.listReferences (fun _ => []) (members.map fun v =>
          .compare relation (Scalar.operand x) (.literal v))) ↔ r ∈ x.mentions := by
        have each (w : Value) : ((Condition.compare relation (Scalar.operand x)
            (.literal w)).references fun _ => []) = x.mentions := by
          rw [Condition.references, references_operand, literal, List.append_nil]
        rw [mem_listReferences]
        constructor
        · rintro ⟨c, hc, h⟩
          obtain ⟨w, -, rfl⟩ := List.mem_map.1 hc
          rwa [each] at h
        · exact fun h => ⟨_, List.mem_map_of_mem hv, by rwa [each]⟩
      cases quantifier <;> rwa [chain, Condition.references]

theorem mem_references_queryForm {x : Scalar} {mentions : List Reference} {c : Condition}
    (form : QueryForm d relation quantifier (fun o => (o.references fun _ => []) = x.mentions)
      (fun q => ∀ r, (r ∈ q.references fun _ => []) ↔ r ∈ mentions) c) :
    (r ∈ c.references fun _ => []) ↔ r ∈ x.mentions ++ mentions := by
  cases form with
  | membership _ left right | quantified _ left right =>
    rw [Condition.references, List.mem_append, List.mem_append, left, right r]
  | existence _ left right =>
    rename_i label _ _ _
    have member : ((Operand.member label).references fun _ => []) = [] := rfl
    cases quantifier <;>
      simp only [existence, Condition.references, left, member, List.append_nil, List.mem_append,
        right r, or_comm]

mutual

/-- The references of a written query are the columns its tree mentions, with the same tables
around. -/
theorem mem_references_query (label : String) : (q : Query) → q.isOwn = true →
    Always (Query.encode d label q) fun q' => ∀ r, (r ∈ q'.references fun _ => []) ↔ r ∈ q.mentions
  | .select source value filter, own => by
    simp only [Query.isOwn, Bool.and_eq_true] at own
    rw [Query.encode, encode_scalar d own.1, pure_bind]
    refine always_bind (mem_references_option filter own.2) fun c hc => always_pure fun r => ?_
    simp only [Subquery.references, Query.mentions, references_operand, List.mem_map,
      List.mem_append, hc]
  | .verbatim _ _, own => by simp [Query.isOwn] at own

/-- The text refers to what the tree mentions, in the same sub-queries. -/
theorem mem_references_predicate : (p : Predicate) → p.isOwn = true →
    Always (Predicate.encode d p) fun c => ∀ r, (r ∈ c.references fun _ => []) ↔ r ∈ p.mentions
  | .compare relation lhs rhs, own => by
    simp only [Predicate.isOwn, Bool.and_eq_true] at own
    rw [Predicate.encode, encode_scalar d own.1, encode_scalar d own.2]
    refine always_pure fun r => ?_
    simp only [Condition.references, Predicate.mentions, references_operand]
  | .collective relation lhs (.values quantifier members), own => by
    simp only [Predicate.isOwn, Bool.and_eq_true] at own
    rw [Predicate.encode, Collective.encode, encode_scalar d own.1, encodeValues_pure]
    refine always_pure fun r => ?_
    rw [mem_references_valuesCondition, Predicate.mentions]
  | .collective relation lhs (.query quantifier members), own => by
    simp only [Predicate.isOwn, Collective.isOwn, Bool.and_eq_true] at own
    rw [Predicate.encode, Collective.encode, encode_scalar d own.1]
    have left : Always (pure (Scalar.operand lhs))
        fun o => (o.references fun _ => []) = lhs.mentions := always_pure (references_operand lhs)
    refine always_mono (always_encodeQuery d left
      (mem_references_query valueAlias members own.2)) fun c form r => ?_
    rw [mem_references_queryForm form, Predicate.mentions]
  | .all _, own => by simp [Predicate.isOwn] at own
  | .verbatim _ _, own => by simp [Predicate.isOwn] at own

theorem mem_references_option : (filter : Option Predicate) → Predicate.optionIsOwn filter = true →
    Always (Predicate.encodeOption d filter) fun c =>
      ∀ r, (r ∈ Condition.optionReferences (fun _ => []) c) ↔ r ∈ Predicate.optionMentions filter
  | none, _ => always_pure fun r => by rw [Condition.optionReferences, Predicate.optionMentions]
  | some p, own => by
    rw [Predicate.encodeOption]
    refine always_bind (mem_references_predicate p own) fun c hc => always_pure fun r => ?_
    rw [Condition.optionReferences, Predicate.optionMentions, hc r]

end

end Writing

/-! ## What is read refers to the same -/

theorem references_gathered (foreign : String → List Reference) (quantifier : Quantifier)
    (parts : List Condition) :
    (gathered quantifier parts).references foreign = Condition.listReferences foreign parts := by
  rcases parts with - | ⟨c, - | ⟨c', rest⟩⟩
  · cases quantifier <;> rfl
  · simp [gathered, Condition.listReferences]
  · cases quantifier <;> simp [gathered, chain, Condition.references]

section Normal

variable {foreign : String → List Reference}

mutual

/-- The normal form refers to the same columns in the same order. -/
theorem references_normal : (c : Condition) → c.normal.references foreign = c.references foreign
  | .compare _ _ _ | .inValues _ _ _ | .verbatim _ => rfl
  | .inQuery _ _ members => by
    simp only [Condition.normal, Condition.references, references_normal_subquery members]
  | .quantified _ _ _ members => by
    simp only [Condition.normal, Condition.references, references_normal_subquery members]
  | .existing _ members _ filter => by
    simp only [Condition.normal, Condition.references, references_normal_subquery members,
      references_normal filter]
  | .notTrue part => by
    simp only [Condition.normal, Condition.references, references_normal part]
  | .any parts => by
    rw [Condition.normal, references_gathered, references_normal_list parts, Condition.references]
  | .all parts => by
    rw [Condition.normal, references_gathered, references_normal_list parts, Condition.references]

theorem references_normal_list : (parts : List Condition) →
    Condition.listReferences foreign (Condition.listNormal parts) =
      Condition.listReferences foreign parts
  | [] => rfl
  | c :: rest => by
    simp only [Condition.listNormal, Condition.listReferences, references_normal c,
      references_normal_list rest]

theorem references_normal_option : (filter : Option Condition) →
    Condition.optionReferences foreign (Condition.optionNormal filter) =
      Condition.optionReferences foreign filter
  | none => rfl
  | some c => by simp only [Condition.optionNormal, Condition.optionReferences, references_normal c]

theorem references_normal_subquery : (q : Subquery) →
    q.normal.references foreign = q.references foreign
  | .select _ _ _ filter => by
    simp only [Subquery.normal, Subquery.references, references_normal_option filter]
  | .verbatim _ => rfl

end

mutual

theorem references_stated_operand : (o : Operand) → o.stated.references foreign = o.references foreign
  | .column _ | .member _ | .literal _ | .verbatim _ => rfl
  | .subquery q => references_stated_subquery q

/-- With the values that literals state, a condition refers to the same columns in the same order. -/
theorem references_stated : (c : Condition) → c.stated.references foreign = c.references foreign
  | .compare _ lhs rhs => by
    simp only [Condition.stated, Condition.references, references_stated_operand lhs,
      references_stated_operand rhs]
  | .inValues _ lhs _ => references_stated_operand lhs
  | .inQuery _ lhs members | .quantified _ _ lhs members => by
    simp only [Condition.stated, Condition.references, references_stated_operand lhs,
      references_stated_subquery members]
  | .existing _ members _ filter => by
    simp only [Condition.stated, Condition.references, references_stated_subquery members,
      references_stated filter]
  | .notTrue part => references_stated part
  | .any parts | .all parts => references_stated_list parts
  | .verbatim _ => rfl

theorem references_stated_list : (parts : List Condition) →
    Condition.listReferences foreign (Condition.listStated parts) =
      Condition.listReferences foreign parts
  | [] => rfl
  | c :: rest => by
    simp only [Condition.listStated, Condition.listReferences, references_stated c,
      references_stated_list rest]

theorem references_stated_option : (filter : Option Condition) →
    Condition.optionReferences foreign (Condition.optionStated filter) =
      Condition.optionReferences foreign filter
  | none => rfl
  | some c => references_stated c

theorem references_stated_subquery : (q : Subquery) →
    q.stated.references foreign = q.references foreign
  | .select value _ _ filter => by
    simp only [Subquery.stated, Subquery.references, references_stated_operand value,
      references_stated_option filter]
  | .verbatim _ => rfl

end

end Normal

/-! ## Names in the text -/

/-- In the text of a predicate over tables that were made, the name in front of a column means what it
has to exactly if the reference is not obscured, and a column that no sub-query around it provides is
declared. So all names mean what they have to exactly if the tree obscures none of its columns, and
always if no two tables go by one name. -/
theorem all_faithful_iff {next : Nat} {tables : List Table} (made : Made next tables)
    {p : Predicate} (own : p.isOwn = true) (formed : p.IsFormed tables fun _ => []) :
    ∃ c, ReadsAs .postgres p c ∧
      (∀ r ∈ c.references fun _ => [],
        (r.isOpen = true → r.column.id ∈ p.imports) ∧ (r.IsFaithful ↔ r.isObscured = false)) ∧
      ((∀ r ∈ c.references fun _ => [], r.IsFaithful) ↔ ∀ r ∈ p.mentions, r.isObscured = false) ∧
      ((∀ t ∈ tables, ∀ t' ∈ tables, t.label = t'.label → t = t') →
        ∀ r ∈ c.references fun _ => [], r.IsFaithful) := by
  have agrees := agrees_predicate (d := .postgres) p formed 0
  have mentioned : ∀ r, (r ∈ (condition .postgres p).references fun _ => []) ↔ r ∈ p.mentions :=
    mem_references_predicate p own 0
  have faithful : ∀ r ∈ (condition .postgres p).references fun _ => [],
      r.IsFaithful ↔ r.isObscured = false := fun r hr =>
    Reference.faithful_iff ((agrees.made r hr).labelled made)
  refine ⟨_, reads_condition .postgres own, ?_⟩
  rw [references_normal, references_stated]
  refine ⟨fun r hr => ⟨agrees.declares r hr, faithful r hr⟩, ?_, fun distinct r hr => ?_⟩
  · exact ⟨fun all r hr => (faithful r ((mentioned r).2 hr)).1 (all r ((mentioned r).2 hr)),
      fun none r hr => (faithful r hr).2 (none r ((mentioned r).1 hr))⟩
  · exact (faithful r hr).2 ((agrees.made r hr).not_obscured made distinct)

/-- A table of parts. -/
def parts : Table := ⟨"parts", "parts", [⟨⟨1⟩, "parts", "kind"⟩, ⟨⟨2⟩, "parts", "price"⟩]⟩

/-- The same table once more, by the given name. -/
def partsAs (label : String) : Table :=
  ⟨"parts", label, [⟨⟨3⟩, label, "kind"⟩, ⟨⟨4⟩, label, "price"⟩]⟩

/-- A part of a kind of which there is a cheaper one, where the other parts go by the given name. -/
def hasCheaper (label : String) : Predicate :=
  .inQuery (.column ⟨⟨1⟩, "parts", "kind"⟩)
    (.select (partsAs label) (.column ⟨⟨3⟩, label, "kind"⟩)
      (some (.compare .less (.column ⟨⟨4⟩, label, "price"⟩) (.column ⟨⟨2⟩, "parts", "price"⟩))))

theorem made_parts : Made 5 [partsAs "p", parts] ∧ Made 5 [partsAs "parts", parts] := by
  have first : Table.declare 1 "parts" "parts" ["kind", "price"] = (.ok parts, 3) := by decide
  have aliased : Table.declare 3 "parts" "p" ["kind", "price"] = (.ok (partsAs "p"), 5) := by decide
  have plain : Table.declare 3 "parts" "parts" ["kind", "price"] = (.ok (partsAs "parts"), 5) := by
    decide
  exact ⟨(Made.start.declared first).declared aliased, (Made.start.declared first).declared plain⟩

theorem formed_hasCheaper (label : String) :
    (hasCheaper label).IsFormed [partsAs label, parts] fun _ => [] := by
  simp [hasCheaper, Predicate.inQuery, Predicate.IsFormed, Collective.IsFormed, Query.IsFormed,
    Scalar.IsFormed, Predicate.OptionIsFormed, partsAs, parts]

/-- With a name of their own for the other parts, every name means what it has to, also the one of the
price outside. -/
theorem all_faithful_iff_hasCheaper : Made 5 [partsAs "p", parts] ∧ (hasCheaper "p").isOwn = true ∧
    ((hasCheaper "p").IsFormed [partsAs "p", parts] fun _ => []) ∧
      ∃ c, ReadsAs .postgres (hasCheaper "p") c ∧
        ⟨⟨⟨2⟩, "parts", "price"⟩, [partsAs "p"]⟩ ∈ (hasCheaper "p").mentions ∧
          ∀ r ∈ c.references fun _ => [], r.IsFaithful := by
  have made := made_parts.1
  have own : (hasCheaper "p").isOwn = true := rfl
  have formed := formed_hasCheaper "p"
  obtain ⟨c, reads, -, -, distinct⟩ := all_faithful_iff made own formed
  exact ⟨made, own, formed, c, reads, by decide, distinct (by decide)⟩

/-- It is not so that in the text of every predicate over tables that can be declared all names mean
what they have to: of a table nested in itself, the price outside is taken for the one inside. -/
theorem obscured_reference : ¬ ∀ (p : Predicate) (next : Nat) (tables : List Table),
    Made next tables → p.isOwn = true → (p.IsFormed tables fun _ => []) →
      ∀ c, ReadsAs .postgres p c → ∀ r ∈ c.references fun _ => [], r.IsFaithful := by
  intro always
  have own : (hasCheaper "parts").isOwn = true := rfl
  have faithful := always _ 5 _ made_parts.2 own (formed_hasCheaper "parts") _
    (reads_condition .postgres own) ⟨⟨⟨2⟩, "parts", "price"⟩, [partsAs "parts"]⟩ (by decide)
  have outside := faithful.1 (by decide)
  exact absurd outside (by decide)

end Sql

end PooledSql
