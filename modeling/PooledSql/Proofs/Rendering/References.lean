import PooledSql.Proofs.Rendering.Lexing

/-!
# References to columns

A predicate declares the columns that it takes from outside, and the text that is written for it
refers to columns by names. Both walk the tree on ways of their own: the text repeats the left operand
for each member of a list, leaves it out where the list is empty, and moves it into a sub-query where
the comparison is a condition on existence.

Here each reference is kept with the sub-queries that it stands in. It is *open* if none of their
tables provides its column, and then the column has to be declared. Otherwise the name in front of it
has to be the one that the table goes by there. For that, identities and names have to belong
together, and they do in tables that are declared one after the other.

Results:
* `Made.unique`: an identity belongs to one of the tables that were made.
* `agrees_predicate`: what is written for a part of the tree agrees with what the part declares.
* `references_declared`: all of it, for a predicate in either dialect.
-/

namespace PooledSql

/-! ## Tables that are made one after the other -/

namespace Table

/-- The columns that are declared go by the label, with identities that are handed out on the way. -/
theorem mem_declareColumns {name label : String} {next after : Nat} {accepted columns : List Column}
    {names : List String}
    (h : declareColumns name label next accepted names = (.ok columns, after)) :
    ∀ c ∈ columns, c ∈ accepted ∨ c.table = label ∧ next ≤ c.id.number ∧ c.id.number < after := by
  induction names generalizing next accepted with
  | nil =>
    simp only [declareColumns, Prod.mk.injEq, Except.ok.injEq] at h
    obtain ⟨rfl, rfl⟩ := h
    exact fun c hc => .inl hc
  | cons first rest ih =>
    simp only [declareColumns] at h
    split at h
    · simp at h
    · split at h
      · simp at h
      · intro c hc
        have later := (declareColumns_next _ _ _ _ _ _ _ h).1
        rcases ih h c hc with before | ⟨labelled, low, high⟩
        · rcases List.mem_append.1 before with before | new
          · exact .inl before
          · rw [List.mem_singleton.1 new]
            exact .inr ⟨rfl, Nat.le_refl next, by dsimp only; omega⟩
        · exact .inr ⟨labelled, by omega, high⟩

theorem mem_declare {name label : String} {next after : Nat} {names : List String} {t : Table}
    (h : declare next name label names = (.ok t, after)) :
    t.name = name ∧ t.label = label ∧ next ≤ after ∧
      ∀ c ∈ t.columns, c.table = label ∧ next ≤ c.id.number ∧ c.id.number < after := by
  simp only [declare] at h
  split at h
  · simp at h
  · split at h
    · simp at h
    · split at h
      · rename_i columns _ declared
        simp only [Prod.mk.injEq, Except.ok.injEq] at h
        obtain ⟨rfl, rfl⟩ := h
        have later := (declareColumns_next _ _ _ _ _ _ _ declared).1
        refine ⟨rfl, rfl, by omega, fun c hc => ?_⟩
        exact (mem_declareColumns declared c hc).resolve_left List.not_mem_nil
      · simp at h

end Table

/-- Tables that were declared one after the other, and the identity to hand out next. Between them,
identities may have gone to others. -/
inductive Made : Nat → List Table → Prop
  | start : Made 1 []
  | later {next next' : Nat} {tables : List Table} (made : Made next tables) (le : next ≤ next') :
      Made next' tables
  | declared {next after : Nat} {tables : List Table} {name label : String} {names : List String}
      {t : Table} (made : Made next tables)
      (declared : Table.declare next name label names = (.ok t, after)) : Made after (t :: tables)

namespace Made

variable {next : Nat} {tables : List Table}

theorem labelled (made : Made next tables) :
    ∀ t ∈ tables, ∀ c ∈ t.columns, c.table = t.label ∧ c.id.number < next := by
  induction made with
  | start => simp
  | later made le ih =>
    intro t ht c hc
    obtain ⟨named, low⟩ := ih t ht c hc
    exact ⟨named, Nat.lt_of_lt_of_le low le⟩
  | declared made declared ih =>
    obtain ⟨-, label, le, columns⟩ := Table.mem_declare declared
    intro t ht c hc
    rcases List.mem_cons.1 ht with rfl | ht
    · obtain ⟨named, -, low⟩ := columns c hc
      exact ⟨named.trans label.symm, low⟩
    · obtain ⟨named, low⟩ := ih t ht c hc
      exact ⟨named, Nat.lt_of_lt_of_le low le⟩

/-- An identity belongs to one of the tables that were made. -/
theorem unique (made : Made next tables) {t t' : Table} (ht : t ∈ tables) (ht' : t' ∈ tables)
    {c c' : Column} (hc : c ∈ t.columns) (hc' : c' ∈ t'.columns) (same : c.id = c'.id) : t = t' := by
  induction made with
  | start => cases ht
  | later made le ih => exact ih ht ht'
  | @declared next after tables name label names last made declared ih =>
    obtain ⟨-, -, -, columns⟩ := Table.mem_declare declared
    -- the last table has identities beyond those of the tables before
    have beyond {u : Table} {d e : Column} (hu : u ∈ tables) (hd : d ∈ u.columns)
        (he : e ∈ last.columns) (alike : d.id = e.id) : False := by
      have before := (made.labelled u hu d hd).2
      have next := (columns e he).2.1
      rw [alike] at before
      omega
    rcases List.mem_cons.1 ht with rfl | before <;> rcases List.mem_cons.1 ht' with rfl | before'
    · rfl
    · exact (beyond before' hc' hc same.symm).elim
    · exact (beyond before hc hc' same).elim
    · exact ih before before'

end Made

/-! ## References, and what they need -/

/-- A reference to a column, with the tables of the sub-queries that it stands in. -/
structure Reference where
  column : Column
  within : List Table := []
deriving DecidableEq, Repr

namespace Reference

/-- The reference inside one more sub-query. -/
def inside (source : Table) (r : Reference) : Reference :=
  { r with within := source :: r.within }

/-- None of the sub-queries around the reference provides its column. -/
def isOpen (r : Reference) : Bool := r.within.all fun t => !t.exports.contains r.column.id

/-- The column and the tables around it are those of tables that were made. -/
def IsMade (tables : List Table) (r : Reference) : Prop :=
  (∃ t ∈ tables, r.column ∈ t.columns) ∧ ∀ t ∈ r.within, t ∈ tables

/-- What is referred to inside a sub-query is open around it if it was and the table does not export
it. -/
theorem isOpen_inside {source : Table} {r : Reference} :
    (r.inside source).isOpen = true ↔ r.column.id ∉ source.exports ∧ r.isOpen = true := by
  simp [isOpen, inside]

theorem IsMade.inside {tables : List Table} {source : Table} {r : Reference}
    (made : r.IsMade tables) (known : source ∈ tables) : (r.inside source).IsMade tables :=
  ⟨made.1, List.forall_mem_cons.2 ⟨known, made.2⟩⟩

end Reference

/-- The references come from tables that were made, and the open ones are declared. If nothing is left
out on the way, whatever is declared is referred to. -/
structure Agrees (tables : List Table) (nothingLeftOut : Prop) (declared : ColumnSet)
    (references : List Reference) : Prop where
  made : ∀ r ∈ references, r.IsMade tables
  declares : ∀ r ∈ references, r.isOpen = true → r.column.id ∈ declared
  refers : nothingLeftOut → ∀ id ∈ declared, ∃ r ∈ references, r.isOpen = true ∧ r.column.id = id

section Agrees

variable {tables : List Table} {w w' : Prop} {declared declared' : ColumnSet}
  {references references' : List Reference}

theorem Agrees.mono (h : Agrees tables w declared references) (weaker : w' → w) :
    Agrees tables w' declared references :=
  ⟨h.made, h.declares, fun full => h.refers (weaker full)⟩

theorem agrees_nil : Agrees tables w [] [] := ⟨by simp, by simp, by simp⟩

/-- References of two parts agree with the union of what the parts declare. -/
theorem agrees_append (h : Agrees tables w declared references)
    (h' : Agrees tables w' declared' references') :
    Agrees tables (w ∧ w') (ColumnSet.union declared declared') (references ++ references') where
  made := List.forall_mem_append.2 ⟨h.made, h'.made⟩
  declares r hr isOpen := by
    rw [ColumnSet.mem_union]
    exact (List.mem_append.1 hr).imp (h.declares r · isOpen) (h'.declares r · isOpen)
  refers full id hid := by
    rcases ColumnSet.mem_union.1 hid with hid | hid
    · obtain ⟨r, hr, found⟩ := h.refers full.1 id hid
      exact ⟨r, List.mem_append_left _ hr, found⟩
    · obtain ⟨r, hr, found⟩ := h'.refers full.2 id hid
      exact ⟨r, List.mem_append_right _ hr, found⟩

/-- A sub-query provides the columns of its own table to what is inside. -/
theorem agrees_inside {source : Table} (known : source ∈ tables)
    (h : Agrees tables w declared references) :
    Agrees tables w (declared.without source.exports) (references.map (Reference.inside source)) where
  made := by
    intro inner inside
    obtain ⟨r, hr, rfl⟩ := List.mem_map.1 inside
    exact (h.made r hr).inside known
  declares := by
    intro inner inside isOpen
    obtain ⟨r, hr, rfl⟩ := List.mem_map.1 inside
    obtain ⟨notProvided, isOpen⟩ := Reference.isOpen_inside.1 isOpen
    exact ColumnSet.mem_without.2 ⟨h.declares r hr isOpen, notProvided⟩
  refers full id hid := by
    obtain ⟨hid, notProvided⟩ := ColumnSet.mem_without.1 hid
    obtain ⟨r, hr, isOpen, rfl⟩ := h.refers full id hid
    exact ⟨r.inside source, List.mem_map_of_mem hr,
      Reference.isOpen_inside.2 ⟨notProvided, isOpen⟩, rfl⟩

end Agrees

/-! ## Trees over tables that were made -/

section Trees

variable (tables : List Table) (foreign : String → List Reference)

/-- The text of another hand, written as `text`, agrees with what it declares as far as anything
that is written has to: what it refers to without providing it is declared. -/
def Reference.IsLawful (text : String) (uses : List ColumnId) : Prop :=
  Agrees tables False (ColumnSet.ofList uses) (foreign text)

/-- The text refers to all that it declares. -/
def Reference.IsFull (text : String) (uses : List ColumnId) : Prop :=
  ∀ id ∈ uses, ∃ r ∈ foreign text, r.isOpen = true ∧ r.column.id = id

mutual

/-- The scalar is made of columns and tables that were made, and of lawful texts. -/
def Scalar.IsFormed : Scalar → Prop
  | .column c => ∃ t ∈ tables, c ∈ t.columns
  | .literal _ => True
  | .subquery q => q.IsFormed
  | .verbatim text uses => Reference.IsLawful tables foreign text uses

/-- The query is. -/
def Query.IsFormed : Query → Prop
  | .select source value filter =>
    source ∈ tables ∧ value.IsFormed ∧ Predicate.OptionIsFormed filter
  | .verbatim text uses =>
    ∀ label : String, Reference.IsLawful tables foreign (text.replace "\x7balias\x7d" label) uses

/-- The collection is. -/
def Collective.IsFormed : Collective → Prop
  | .values _ _ => True
  | .query _ members => members.IsFormed

/-- The predicate is. -/
def Predicate.IsFormed : Predicate → Prop
  | .compare _ lhs rhs => lhs.IsFormed ∧ rhs.IsFormed
  | .collective _ lhs rhs => lhs.IsFormed ∧ rhs.IsFormed
  | .all parts => Predicate.ListIsFormed parts
  | .verbatim text uses => Reference.IsLawful tables foreign text uses

/-- The filter is, if there is one. -/
def Predicate.OptionIsFormed : Option Predicate → Prop
  | none => True
  | some p => p.IsFormed

/-- Each of the predicates is. -/
def Predicate.ListIsFormed : List Predicate → Prop
  | [] => True
  | p :: rest => p.IsFormed ∧ Predicate.ListIsFormed rest

end

mutual

/-- No list in the scalar is empty, and texts of another hand leave nothing out. -/
def Scalar.IsFull : Scalar → Prop
  | .column _ => True
  | .literal _ => True
  | .subquery q => q.IsFull
  | .verbatim text uses => Reference.IsFull foreign text uses

/-- No list in the query is empty, and texts of another hand leave nothing out. -/
def Query.IsFull : Query → Prop
  | .select _ value filter => value.IsFull ∧ Predicate.OptionIsFull filter
  | .verbatim text uses =>
    ∀ label : String, Reference.IsFull foreign (text.replace "\x7balias\x7d" label) uses

/-- The list is not empty, and neither is one in the query. -/
def Collective.IsFull : Collective → Prop
  | .values _ members => members ≠ []
  | .query _ members => members.IsFull

/-- No list in the predicate is empty, and texts of another hand leave nothing out. -/
def Predicate.IsFull : Predicate → Prop
  | .compare _ lhs rhs => lhs.IsFull ∧ rhs.IsFull
  | .collective _ lhs rhs => lhs.IsFull ∧ rhs.IsFull
  | .all parts => Predicate.ListIsFull parts
  | .verbatim text uses => Reference.IsFull foreign text uses

/-- No list in the filter is empty, if there is one. -/
def Predicate.OptionIsFull : Option Predicate → Prop
  | none => True
  | some p => p.IsFull

/-- No list in any of the predicates is empty. -/
def Predicate.ListIsFull : List Predicate → Prop
  | [] => True
  | p :: rest => p.IsFull ∧ Predicate.ListIsFull rest

end

end Trees

namespace Sql

/-! ## What conditions refer to -/

section References

variable (foreign : String → List Reference)

mutual

/-- The references of an operand in order, given those of texts of another hand. -/
def Operand.references : Operand → List Reference
  | .column c => [⟨c, []⟩]
  | .member _ => []
  | .literal _ => []
  | .subquery q => q.references
  | .verbatim text => foreign text

/-- The references of a condition in order. -/
def Condition.references : Condition → List Reference
  | .compare _ lhs rhs => lhs.references ++ rhs.references
  | .inValues _ lhs _ => lhs.references
  | .inQuery _ lhs members => lhs.references ++ members.references
  | .quantified _ _ lhs members => lhs.references ++ members.references
  | .existing _ members _ filter => members.references ++ filter.references
  | .notTrue part => part.references
  | .any parts => Condition.listReferences parts
  | .all parts => Condition.listReferences parts
  | .verbatim text => foreign text

/-- The references of some conditions in order. -/
def Condition.listReferences : List Condition → List Reference
  | [] => []
  | c :: rest => c.references ++ Condition.listReferences rest

/-- The references of a filter, if there is one. -/
def Condition.optionReferences : Option Condition → List Reference
  | none => []
  | some c => c.references

/-- The references of a sub-query: all of them stand inside it. -/
def Subquery.references : Subquery → List Reference
  | .select value _ source filter =>
    (value.references ++ Condition.optionReferences filter).map (Reference.inside source)
  | .verbatim text => foreign text

end

end References

theorem mem_listReferences {foreign : String → List Reference} {parts : List Condition}
    {r : Reference} :
    r ∈ Condition.listReferences foreign parts ↔ ∃ c ∈ parts, r ∈ c.references foreign := by
  induction parts with
  | nil => simp [Condition.listReferences]
  | cons c rest ih => simp [Condition.listReferences, ih]

/-! ## What is written agrees with what is declared -/

section Writing

variable {tables : List Table} {foreign : String → List Reference} {d : Dialect}
  {relation : Relation} {quantifier : Quantifier}

theorem agrees_verbatim {text : String} {uses : List ColumnId}
    (lawful : Reference.IsLawful tables foreign text uses) :
    Agrees tables (Reference.IsFull foreign text uses) (ColumnSet.ofList uses) (foreign text) where
  made := lawful.made
  declares := lawful.declares
  refers full id hid := full id (ColumnSet.mem_ofList.1 hid)

/-- What a comparison with a list refers to is what its left operand refers to, for each member or
once, unless there are no members. -/
theorem agrees_valuesForm {w : Prop} {declared : ColumnSet} {members : List Value} {c : Condition}
    (form : ValuesForm relation quantifier
      (fun lhs => Agrees tables w declared (lhs.references foreign)) members c) :
    Agrees tables (w ∧ members ≠ []) declared (c.references foreign) := by
  cases form with
  | vacuous =>
    have none : (vacuous quantifier).references foreign = [] := by
      cases quantifier <;> rfl
    rw [none]
    exact ⟨by simp, by simp, fun full => absurd rfl full.2⟩
  | membership form left =>
    rw [Condition.references]
    exact left.mono And.left
  | @chain _ parts comparisons =>
    have each : ∀ c ∈ parts, Agrees tables w declared (c.references foreign) := by
      induction comparisons with
      | nil => simp
      | cons first _ ih =>
        obtain ⟨lhs, left, rfl⟩ := first
        refine List.forall_mem_cons.2 ⟨?_, ih⟩
        simpa [Condition.references, Operand.references] using left
    have written : (chain quantifier parts).references foreign =
        Condition.listReferences foreign parts := by
      cases quantifier <;> simp only [chain, Condition.references]
    rw [written]
    refine ⟨fun r hr => ?_, fun r hr isOpen => ?_, fun full id hid => ?_⟩
    · obtain ⟨c, hc, hr⟩ := mem_listReferences.1 hr
      exact (each c hc).made r hr
    · obtain ⟨c, hc, hr⟩ := mem_listReferences.1 hr
      exact (each c hc).declares r hr isOpen
    · obtain ⟨c, hc⟩ : ∃ c, c ∈ parts := by
        refine List.exists_mem_of_ne_nil _ fun none => full.2 ?_
        rw [none] at comparisons
        cases comparisons
        rfl
      obtain ⟨r, hr, found⟩ := (each c hc).refers full.1 id hid
      exact ⟨r, mem_listReferences.2 ⟨c, hc, hr⟩, found⟩

/-- What a comparison with a sub-query refers to is what its operands refer to, in one order or the
other. -/
theorem agrees_queryForm {w w' : Prop} {declared declared' : ColumnSet} {c : Condition}
    (form : QueryForm d relation quantifier
      (fun lhs => Agrees tables w declared (lhs.references foreign))
      (fun members => Agrees tables w' declared' (members.references foreign)) c) :
    Agrees tables (w ∧ w') (ColumnSet.union declared declared') (c.references foreign) := by
  cases form with
  | membership _ left right | quantified _ left right =>
    rw [Condition.references]
    exact agrees_append left right
  | @existence label lhs members _ left right =>
    have both := agrees_append left right
    have mem (r : Reference) : r ∈ (existence members label
        (.compare relation lhs (.member label)) quantifier).references foreign ↔
          r ∈ lhs.references foreign ++ members.references foreign := by
      cases quantifier <;>
        simp [existence, Condition.references, Operand.references, or_comm]
    exact ⟨fun r hr => both.made r ((mem r).1 hr), fun r hr => both.declares r ((mem r).1 hr),
      fun full id hid => (both.refers full id hid).imp fun r found => ⟨(mem r).2 found.1, found.2⟩⟩

mutual

theorem agrees_scalar : (x : Scalar) → x.IsFormed tables foreign →
    Always (Scalar.encode d x) fun o =>
      Agrees tables (x.IsFull foreign) x.imports (o.references foreign)
  | .column c, formed => by
    rw [Scalar.IsFormed] at formed
    refine always_pure ?_
    simp only [Operand.references, Scalar.imports]
    exact ⟨by simpa [Reference.IsMade] using formed, by simp, by simp [Reference.isOpen]⟩
  | .literal v, _ => by
    refine always_pure ?_
    simp only [Operand.references, Scalar.imports]
    exact agrees_nil
  | .subquery q, formed => by
    rw [Scalar.IsFormed] at formed
    refine always_bind (agrees_query scalarAlias q formed) fun written h => always_pure ?_
    simpa only [Operand.references, Scalar.imports, Scalar.IsFull] using h
  | .verbatim text uses, formed => by
    rw [Scalar.IsFormed] at formed
    refine always_pure ?_
    simpa only [Operand.references, Scalar.imports, Scalar.IsFull] using agrees_verbatim formed

/-- The references of a sub-query agree with the query's imports. -/
theorem agrees_query (label : String) : (q : Query) → q.IsFormed tables foreign →
    Always (Query.encode d label q) fun s =>
      Agrees tables (q.IsFull foreign) q.imports (s.references foreign)
  | .select source value filter, formed => by
    rw [Query.IsFormed] at formed
    obtain ⟨known, formedValue, formedFilter⟩ := formed
    rw [Query.encode]
    refine always_bind (agrees_scalar value formedValue) fun v hv => ?_
    refine always_bind (agrees_option filter formedFilter) fun c hc => always_pure ?_
    simpa only [Subquery.references, Query.imports, Query.IsFull] using
      agrees_inside known (agrees_append hv hc)
  | .verbatim text uses, formed => by
    rw [Query.IsFormed] at formed
    refine always_pure ?_
    simp only [Subquery.references, Query.imports, Query.IsFull]
    exact (agrees_verbatim (formed label)).mono fun full => full label

/-- The references of a condition agree with the predicate's imports. -/
theorem agrees_predicate : (p : Predicate) → p.IsFormed tables foreign →
    Always (Predicate.encode d p) fun c =>
      Agrees tables (p.IsFull foreign) p.imports (c.references foreign)
  | .compare relation lhs rhs, formed => by
    rw [Predicate.IsFormed] at formed
    rw [Predicate.encode]
    refine always_bind (agrees_scalar lhs formed.1) fun l hl => ?_
    refine always_bind (agrees_scalar rhs formed.2) fun r hr => always_pure ?_
    simpa only [Condition.references, Predicate.imports, Predicate.IsFull] using
      agrees_append hl hr
  | .collective relation lhs (.values quantifier members), formed => by
    rw [Predicate.IsFormed] at formed
    rw [Predicate.encode, Collective.encode]
    refine always_mono (always_encodeValues members (agrees_scalar lhs formed.1)) fun c form => ?_
    have whole := agrees_append (agrees_valuesForm form) (agrees_nil (w := True))
    rw [List.append_nil] at whole
    simp only [Predicate.imports, Predicate.IsFull, Collective.imports, Collective.IsFull]
    exact whole.mono fun full => ⟨full, trivial⟩
  | .collective relation lhs (.query quantifier members), formed => by
    rw [Predicate.IsFormed, Collective.IsFormed] at formed
    rw [Predicate.encode, Collective.encode]
    refine always_mono (always_encodeQuery d (agrees_scalar lhs formed.1)
      (agrees_query valueAlias members formed.2)) fun c form => ?_
    simpa only [Predicate.imports, Predicate.IsFull, Collective.imports, Collective.IsFull] using
      agrees_queryForm form
  | .all parts, formed => by
    rw [Predicate.IsFormed] at formed
    rw [Predicate.encode]
    refine always_bind (agrees_list parts formed) fun cs hcs => always_pure ?_
    simpa only [Condition.references, Predicate.imports, Predicate.IsFull] using hcs
  | .verbatim text uses, formed => by
    rw [Predicate.IsFormed] at formed
    refine always_pure ?_
    simpa only [Condition.references, Predicate.imports, Predicate.IsFull] using
      agrees_verbatim formed

theorem agrees_option : (filter : Option Predicate) →
    Predicate.OptionIsFormed tables foreign filter →
    Always (Predicate.encodeOption d filter) fun c =>
      Agrees tables (Predicate.OptionIsFull foreign filter) (Predicate.optionImports filter)
        (Condition.optionReferences foreign c)
  | none, _ => by
    refine always_pure ?_
    simp only [Predicate.optionImports, Condition.optionReferences]
    exact agrees_nil
  | some p, formed => by
    rw [Predicate.OptionIsFormed] at formed
    rw [Predicate.encodeOption]
    refine always_bind (agrees_predicate p formed) fun c hc => always_pure ?_
    simpa only [Condition.optionReferences, Predicate.optionImports, Predicate.OptionIsFull] using hc

theorem agrees_list : (parts : List Predicate) → Predicate.ListIsFormed tables foreign parts →
    Always (Predicate.encodeList d parts) fun cs =>
      Agrees tables (Predicate.ListIsFull foreign parts) (Predicate.listImports parts)
        (Condition.listReferences foreign cs)
  | [], _ => by
    refine always_pure ?_
    simp only [Predicate.listImports, Condition.listReferences]
    exact agrees_nil
  | p :: rest, formed => by
    rw [Predicate.ListIsFormed] at formed
    rw [Predicate.encodeList]
    refine always_bind (agrees_predicate p formed.1) fun c hc => ?_
    refine always_bind (agrees_list rest formed.2) fun cs hcs => always_pure ?_
    simpa only [Condition.listReferences, Predicate.listImports, Predicate.ListIsFull] using
      agrees_append hc hcs

end

end Writing

/-! ## References in the text -/

/-- The column that a symbol refers to, if it is a reference to one. -/
def Symbol.column? : Symbol → Option Column
  | .column c => some c
  | .member _ => none
  | .literal _ => none
  | .source _ => none
  | .name _ => none
  | .word _ => none
  | .sign _ => none

section Text

variable (foreign : String → List Reference)

/-- The columns that some symbols refer to, in order. -/
def columnsOf (symbols : List Symbol) : List Column := symbols.filterMap Symbol.column?

@[simp]
theorem columnsOf_nil : columnsOf [] = [] := rfl

@[simp]
theorem columnsOf_append (a b : List Symbol) : columnsOf (a ++ b) = columnsOf a ++ columnsOf b :=
  List.filterMap_append

@[simp]
theorem columnsOf_sign (s : String) (more : List Symbol) :
    columnsOf (.sign s :: more) = columnsOf more := rfl

@[simp]
theorem columnsOf_word (s : String) (more : List Symbol) :
    columnsOf (.word s :: more) = columnsOf more := rfl

@[simp]
theorem columnsOf_name (s : String) (more : List Symbol) :
    columnsOf (.name s :: more) = columnsOf more := rfl

@[simp]
theorem columnsOf_literal (v : Value) (more : List Symbol) :
    columnsOf (.literal v :: more) = columnsOf more := rfl

@[simp]
theorem columnsOf_source (t : Table) (more : List Symbol) :
    columnsOf (.source t :: more) = columnsOf more := rfl

@[simp]
theorem columnsOf_enclosed (part : List Symbol) :
    columnsOf (Symbols.enclosed part) = columnsOf part := by
  simp [Symbols.enclosed]

@[simp]
theorem columnsOf_maybeNot (negated : Bool) (w : String) :
    columnsOf (Symbols.maybeNot negated w) = [] := by
  cases negated <;> rfl

theorem columnsOf_separated {separator : Symbol} (bare : separator.column? = none)
    (parts : List (List Symbol)) :
    columnsOf (separated [separator] parts) = (parts.map columnsOf).flatten := by
  have nothing : columnsOf [separator] = [] := by simp [columnsOf, bare]
  rw [map_separated columnsOf_nil columnsOf_append, nothing]
  induction parts.map columnsOf with
  | nil => rfl
  | cons part more ih =>
    cases more with
    | nil => simp [separated]
    | cons next more => simpa [separated] using ih

theorem columnsOf_listed (members : List Value) : columnsOf (Symbols.listed members) = [] := by
  rw [Symbols.listed, columnsOf_separated rfl, List.map_map, List.flatten_eq_nil_iff]
  intro part hp
  obtain ⟨v, -, rfl⟩ := List.mem_map.1 hp
  rfl

theorem columnsOf_operand {o : Operand} (readable : o.isReadable = true) :
    columnsOf o.symbols = (o.references foreign).map Reference.column := by
  cases o with
  | column | member | literal =>
    rw [Operand.symbols, Operand.references]
    rfl
  | subquery | verbatim => simp [Operand.isReadable] at readable

mutual

/-- The columns that a condition's symbols show are its references, in order. -/
theorem columnsOf_condition : (c : Condition) → c.isReadable = true →
    columnsOf c.symbols = (c.references foreign).map Reference.column
  | .compare relation lhs rhs, readable => by
    simp only [Condition.isReadable, Bool.and_eq_true] at readable
    simp [Condition.symbols, Condition.references, Symbols.compared,
      columnsOf_operand foreign readable.1, columnsOf_operand foreign readable.2]
  | .inValues negated lhs members, readable => by
    simp only [Condition.isReadable, Bool.and_eq_true] at readable
    simp [Condition.symbols, Condition.references, Symbols.membership, columnsOf_listed,
      columnsOf_operand foreign readable.1]
  | .inQuery negated lhs members, readable => by
    simp only [Condition.isReadable, Bool.and_eq_true] at readable
    simp [Condition.symbols, Condition.references, Symbols.membership,
      columnsOf_operand foreign readable.1, columnsOf_subquery members readable.2]
  | .quantified relation quantifier lhs members, readable => by
    simp only [Condition.isReadable, Bool.and_eq_true] at readable
    simp [Condition.symbols, Condition.references, Symbols.quantified, Symbols.compared,
      columnsOf_operand foreign readable.1, columnsOf_subquery members readable.2]
  | .existing negated members label filter, readable => by
    simp only [Condition.isReadable, Bool.and_eq_true] at readable
    simp [Condition.symbols, Condition.references, Symbols.existing,
      columnsOf_subquery members readable.1, columnsOf_condition filter readable.2]
  | .notTrue part, readable => by
    rw [Condition.isReadable] at readable
    simp [Condition.symbols, Condition.references, Symbols.notTrue,
      columnsOf_condition part readable]
  | .any parts, readable => by
    simp only [Condition.isReadable, Bool.and_eq_true] at readable
    rw [Condition.symbols, Condition.references, Symbols.chained, columnsOf_enclosed,
      columnsOf_separated rfl, columnsOf_list parts readable.2]
  | .all parts, readable => by
    simp only [Condition.isReadable, Bool.and_eq_true] at readable
    rw [Condition.symbols, Condition.references, Symbols.chained, columnsOf_enclosed,
      columnsOf_separated rfl, columnsOf_list parts readable.2]
  | .verbatim _, readable => by simp [Condition.isReadable] at readable

theorem columnsOf_list : (parts : List Condition) → Condition.listIsReadable parts = true →
    ((Condition.listSymbols parts).map columnsOf).flatten =
      (Condition.listReferences foreign parts).map Reference.column
  | [], _ => by simp [Condition.listSymbols, Condition.listReferences]
  | c :: rest, readable => by
    simp only [Condition.listIsReadable, Bool.and_eq_true] at readable
    simp [Condition.listSymbols, Condition.listReferences, columnsOf_condition c readable.1,
      columnsOf_list rest readable.2]

theorem columnsOf_subquery : (q : Subquery) → q.isReadable = true →
    columnsOf q.symbols = (q.references foreign).map Reference.column
  | .select value label source none, readable => by
    simp only [Subquery.isReadable, Bool.and_eq_true] at readable
    simp [Subquery.symbols, Subquery.references, Symbols.selection, Condition.optionSymbols,
      Condition.optionReferences, columnsOf_operand foreign readable.1, Function.comp_def,
      Reference.inside]
  | .select value label source (some c), readable => by
    simp only [Subquery.isReadable, Condition.optionIsReadable, Bool.and_eq_true] at readable
    simp [Subquery.symbols, Subquery.references, Symbols.selection, Condition.optionSymbols,
      Condition.optionReferences, columnsOf_operand foreign readable.1,
      columnsOf_condition c readable.2, Function.comp_def, Reference.inside]
  | .verbatim _, readable => by simp [Subquery.isReadable] at readable

end

end Text

/-! ## All of it -/

/-- The last name in a `FROM` is the one that the table goes by. -/
theorem getLast?_sourcePieces (t : Table) :
    (sourcePieces t).getLast? = some (.name t.label) := by
  unfold sourcePieces
  split
  · rfl
  · rename_i plain
    have same : t.name = t.label := by simpa [Table.isAliased] using plain
    rw [same]
    rfl

/-- What the text of a predicate refers to outside every sub-query that provides it is declared, and
nothing else is declared unless a list is empty; and what a sub-query provides goes by the name that
its `FROM` introduces. The references are those of the text, in order. -/
theorem references_declared {next : Nat} {tables : List Table} (made : Made next tables)
    {foreign : String → List Reference} {p : Predicate} (formed : p.IsFormed tables foreign)
    (d : Dialect) (taken : Nat) :
    (∀ r ∈ ((Predicate.encode d p).run taken).1.references foreign,
        r.isOpen = true → r.column.id ∈ p.imports) ∧
      (p.IsFull foreign → ∀ id ∈ p.imports,
        ∃ r ∈ ((Predicate.encode d p).run taken).1.references foreign,
          r.isOpen = true ∧ r.column.id = id) ∧
      (∀ r ∈ ((Predicate.encode d p).run taken).1.references foreign,
        ∀ t ∈ r.within, r.column.id ∈ t.exports →
          (sourcePieces t).getLast? = some (.name r.column.table)) ∧
      (p.isOwn = true → tokens d (toSql d p) = .ok (tokensOfSymbols d (symbols d p)) ∧
        columnsOf (symbols d p) = ((condition d p).references foreign).map Reference.column) := by
  have agrees := agrees_predicate (d := d) p formed taken
  refine ⟨agrees.declares, agrees.refers, fun r hr t within provided => ?_, fun own => ?_⟩
  · obtain ⟨⟨home, known, ofHome⟩, around⟩ := agrees.made r hr
    obtain ⟨c, ofTable, same⟩ := List.mem_map.1 (ColumnSet.mem_ofList.1 provided)
    have one : t = home := made.unique (around t within) known ofTable ofHome same
    rw [getLast?_sourcePieces, one, (made.labelled home known _ ofHome).1]
  · rw [← symbols_encode d own]
    exact ⟨symbols_encode d own ▸ tokens_toSql own,
      columnsOf_condition foreign _ (readable_encode d own)⟩

/-- A table of invoices. -/
def invoices : Table := ⟨"invoices", "invoices", [⟨⟨1⟩, "invoices", "id"⟩, ⟨⟨2⟩, "invoices", "sum"⟩]⟩

/-- A table of instalments that goes by `i`. -/
def instalments : Table := ⟨"instalments", "i", [⟨⟨3⟩, "i", "invoice"⟩, ⟨⟨4⟩, "i", "paid"⟩]⟩

/-- An invoice over more than each of its instalments. -/
def exceedsInstalments : Predicate :=
  .collective .greater (.column ⟨⟨2⟩, "invoices", "sum"⟩)
    (.query .all (.select instalments (.column ⟨⟨4⟩, "i", "paid"⟩)
      (some (.compare .equal (.column ⟨⟨3⟩, "i", "invoice"⟩) (.column ⟨⟨1⟩, "invoices", "id"⟩)))))

/-- The sub-query provides two of the four columns; the other two are declared. -/
theorem references_declared_correlated : Made 5 [instalments, invoices] ∧
    exceedsInstalments.IsFormed [instalments, invoices] (fun _ => []) ∧
      (exceedsInstalments.IsFull fun _ => []) ∧ exceedsInstalments.imports = [⟨1⟩, ⟨2⟩] ∧
        (condition .sqlite exceedsInstalments).references (fun _ => []) =
          [⟨⟨⟨4⟩, "i", "paid"⟩, [instalments]⟩, ⟨⟨⟨3⟩, "i", "invoice"⟩, [instalments]⟩,
            ⟨⟨⟨1⟩, "invoices", "id"⟩, [instalments]⟩, ⟨⟨⟨2⟩, "invoices", "sum"⟩, []⟩] ∧
          (∀ id ∈ exceedsInstalments.imports,
            ∃ r ∈ (condition .sqlite exceedsInstalments).references fun _ => [],
              r.isOpen = true ∧ r.column.id = id) ∧
            ∀ r ∈ (condition .sqlite exceedsInstalments).references fun _ => [],
              ∀ t ∈ r.within, r.column.id ∈ t.exports →
                (sourcePieces t).getLast? = some (.name r.column.table) := by
  have first : Table.declare 1 "invoices" "invoices" ["id", "sum"] = (.ok invoices, 3) := by decide
  have second : Table.declare 3 "instalments" "i" ["invoice", "paid"] = (.ok instalments, 5) := by
    decide
  have made : Made 5 [instalments, invoices] := (Made.start.declared first).declared second
  have formed : exceedsInstalments.IsFormed [instalments, invoices] (fun _ => []) := by
    simp [exceedsInstalments, Predicate.IsFormed, Collective.IsFormed, Query.IsFormed,
      Scalar.IsFormed, Predicate.OptionIsFormed, instalments, invoices]
  have full : exceedsInstalments.IsFull fun _ => [] := by
    simp [exceedsInstalments, Predicate.IsFull, Collective.IsFull, Query.IsFull, Scalar.IsFull,
      Predicate.OptionIsFull]
  have agreed := references_declared made formed .sqlite 0
  exact ⟨made, formed, full, by decide, by decide, agreed.2.1 full, agreed.2.2.1⟩

end Sql

end PooledSql
