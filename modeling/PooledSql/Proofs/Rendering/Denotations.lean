import PooledSql.Proofs.Rendering.Readback
import PooledSql.Proofs.Rendering.Stated

/-!
# What the names in a text denote

A text has the names of columns and tables, but tables of different rows may go by one name, and so the
names do not tell which column or which table is meant. Here a text comes with notes, one for each
reference and one for each table of a `FROM`, in the order in which they stand: the identity of the
column, that a reference is to the values of a sub-query instead, or the columns that the table provides.
Everything else is read from the tokens alone: literals by what they say, names, words and signs.

A real that is no finite number is written as `NULL` and read as that. So the symbols of a condition are
recovered with every value as its literal states it, which does not change what the condition says.

Results:
* `readUnits_tokens`: what is legible is recovered from its tokens and its notes.
* `legible_condition`: the symbols of a condition are legible.
* `readUnits_condition`: so they are recovered, as the symbols of the condition with stated values.
-/

namespace PooledSql.Sql

open Readback (readTable Follows startsScalar_literal)

/-! ## The reader -/

/-- What is noted for a name: what it denotes, as far as the text does not say it. -/
inductive Denotation
  | column (id : ColumnId)
  /-- The values of a sub-query that goes by a name. -/
  | member
  /-- A table that provides some columns. -/
  | table (columns : List Column)
deriving DecidableEq, Repr

/-- The note for a symbol, if it has one. -/
def Symbol.denotation? : Symbol → Option Denotation
  | .column c => some (.column c.id)
  | .member _ => some .member
  | .source t => some (.table t.columns)
  | .literal _ => none
  | .name _ => none
  | .word _ => none
  | .sign _ => none

/-- The notes for some symbols. -/
def denotationsOf (l : List Symbol) : List Denotation := l.filterMap Symbol.denotation?

/-- The notes for the text of a predicate. -/
def denotations (d : Dialect) (p : Predicate) : List Denotation := denotationsOf (symbols d p)

/-- What a reference by two names is, given its note. -/
def readReference (table name : String) : Denotation → Option Symbol
  | .column id => some (.column ⟨id, table, name⟩)
  | .member => if name = valueAlias then some (.member table) else none
  | .table _ => none

/-- A table with the columns that are noted for it. -/
def readProvider (t : Table) : Denotation → Option Symbol
  | .table columns => some (.source { t with columns })
  | .column _ => none
  | .member => none

/-- Reads the symbols that have to be read together: mostly one, but two where a table follows its
`FROM`, and three where `TRUE` is no value but what a condition is tested for. -/
def readUnit (notes : List Denotation) (s : List Token) :
    Option (List Symbol × List Denotation × List Token) :=
  match readValue s with
  | some (v, s) => some ([.literal v], notes, s)
  | none =>
    match s with
    | .name table :: .sign "." :: .name name :: s => do
      let x ← readReference table name (← notes.head?)
      some ([x], notes.tail, s)
    | .word "FROM" :: .name name :: s => do
      let (t, s) ← readTable (.name name :: s)
      let x ← readProvider t (← notes.head?)
      some ([.word "FROM", x], notes.tail, s)
    | .word "IS" :: .word "NOT" :: .word "TRUE" :: s =>
      some ([.word "IS", .word "NOT", .word "TRUE"], notes, s)
    | .name name :: s => some ([.name name], notes, s)
    | .word w :: s => some ([.word w], notes, s)
    | .sign x :: s => some ([.sign x], notes, s)
    | _ => none

/-- Reads symbols to the end, in at most `n` units; no note may be left. -/
def readUnits : Nat → List Denotation → List Token → Option (List Symbol)
  | _, [], [] => some []
  | _, _ :: _, [] => none
  | 0, _, _ :: _ => none
  | n + 1, notes, t :: more => do
    let (units, notes, s) ← readUnit notes (t :: more)
    return units ++ (← readUnits n notes s)

/-! ## What is legible -/

/-- The symbol is read by itself: a reference, a literal, a name that is given, a word that starts nothing
else, or a sign that is no part of something else. -/
def Symbol.isUnit : Symbol → Bool
  | .column _ => true
  | .member _ => true
  | .literal _ => true
  | .name _ => true
  | .source _ => false
  | .word w => !(["NULL", "TRUE", "FALSE", "FROM", "IS"].contains w)
  | .sign s => !(["-", "::", "."].contains s)

/-- Symbols that can be told from their tokens and notes. -/
inductive Legible : List Symbol → Prop
  | nil : Legible []
  | unit {x : Symbol} {rest : List Symbol} (alone : x.isUnit = true) (onward : Legible rest) :
      Legible (x :: rest)
  | table (t : Table) {rest : List Symbol} (other : rest.head? ≠ some (.word "AS"))
      (onward : Legible rest) : Legible (.word "FROM" :: .source t :: rest)
  | subquery {rest : List Symbol} (onward : Legible rest) :
      Legible (.word "FROM" :: .sign "(" :: rest)
  | test {rest : List Symbol} (onward : Legible rest) :
      Legible (.word "IS" :: .word "NOT" :: .word "TRUE" :: rest)

/-- A token that ends whatever is in front of it: no sign of a type, and no point. -/
def Delimits (t : Token) : Prop := t ≠ .sign "::" ∧ t ≠ .sign "."

section Reading

variable {d : Dialect}

/-- What stands alone starts with a token that delimits; with `AS` only if it is that word. -/
theorem starts_unit {x : Symbol} (alone : x.isUnit = true) :
    ∃ t more, x.tokens d = t :: more ∧ Delimits t ∧ (t = .word "AS" → x = .word "AS") := by
  cases x with
  | column | member | name => exact ⟨_, _, rfl, ⟨by simp, by simp⟩, by simp⟩
  | word w => exact ⟨_, _, rfl, ⟨by simp, by simp⟩, by simp⟩
  | literal v =>
    obtain ⟨t, more, tokens, starts⟩ := startsScalar_literal (d := d) v
    refine ⟨t, more, tokens, ⟨?_, ?_⟩, ?_⟩ <;>
    · rintro rfl
      exact absurd starts (by decide)
  | sign s =>
    simp only [Symbol.isUnit, List.contains_cons, List.contains_nil, Bool.or_false, Bool.not_eq_true',
      Bool.or_eq_false_iff, beq_eq_false_iff_ne] at alone
    exact ⟨_, _, rfl, ⟨by simpa using alone.2.1, by simpa using alone.2.2⟩, by simp⟩
  | source => cases alone

/-- What is legible starts with a token that delimits; with `AS` only if that word comes first. -/
theorem Legible.starts {l : List Symbol} (legible : Legible l) {t : Token}
    (first : (tokensOfSymbols d l).head? = some t) :
    Delimits t ∧ (t = .word "AS" → l.head? = some (.word "AS")) := by
  cases legible with
  | nil => cases first
  | unit alone onward =>
    obtain ⟨t', more, tokens, delimits, as'⟩ := starts_unit (d := d) alone
    rw [tokensOfSymbols_cons, tokens] at first
    cases first
    exact ⟨delimits, fun same => congrArg some (as' same)⟩
  | table | subquery | test =>
    cases first
    exact ⟨⟨by simp, by simp⟩, by simp⟩

/-- Whatever is in front of it ends here. -/
def Delimited (s : List Token) : Prop := ∀ t, s.head? = some t → Delimits t

theorem Delimited.follows {s : List Token} (h : Delimited s) : Follows s :=
  fun first => (h _ first).1 rfl

/-- A symbol that is read by itself is recovered from its tokens and its note. -/
theorem readUnit_tokens {x : Symbol} (alone : x.isUnit = true) (notes : List Denotation)
    {rest : List Token} (ends : Delimited rest) :
    readUnit (x.denotation?.toList ++ notes) (x.tokens d ++ rest) =
      some ([x.stated], notes, rest) := by
  cases x with
  | column | member => rfl
  | literal v =>
    unfold readUnit
    rw [readValue_literal d v ends.follows]
    rfl
  | name s =>
    cases rest with
    | nil => rfl
    | cons t more =>
      have point : t ≠ .sign "." := (ends t rfl).2
      have none : readValue (.name s :: t :: more) = none := rfl
      show readUnit notes (.name s :: t :: more) = _
      simp [readUnit, none, point, Symbol.stated]
  | word w =>
    simp only [Symbol.isUnit, List.contains_cons, List.contains_nil, Bool.or_false, Bool.not_eq_true',
      Bool.or_eq_false_iff, beq_eq_false_iff_ne] at alone
    obtain ⟨null, yes, no, table, test⟩ := alone
    have none : readValue (.word w :: rest) = none := by simp [readValue, null, yes, no]
    show readUnit notes (.word w :: rest) = _
    simp only [readUnit, none]
    simp [table, test, Symbol.stated]
  | sign s =>
    simp only [Symbol.isUnit, List.contains_cons, List.contains_nil, Bool.or_false, Bool.not_eq_true',
      Bool.or_eq_false_iff, beq_eq_false_iff_ne] at alone
    have none : readValue (.sign s :: rest) = none := by simp [readValue, alone.1]
    show readUnit notes (.sign s :: rest) = _
    simp only [readUnit, none]
    rfl
  | source => cases alone

/-- A table is recovered with its `FROM`, where no name is given behind it. -/
theorem readUnit_table (t : Table) (notes : List Denotation) {rest : List Token}
    (other : rest.head? ≠ some (.word "AS")) :
    readUnit (.table t.columns :: notes) (.word "FROM" :: ((Symbol.source t).tokens d ++ rest)) =
      some ([.word "FROM", .source t], notes, rest) := by
  have read : readTable ((Symbol.source t).tokens d ++ rest) = some (t.canon, rest) :=
    Readback.readTable_source t other
  have from' (s : List Token) : readValue (.word "FROM" :: s) = none := rfl
  rw [Symbol.tokens, List.cons_append] at read ⊢
  simp only [readUnit, from', read, List.head?_cons, List.tail_cons, Option.bind_eq_bind,
    Option.bind_some, readProvider, Table.canon]

theorem Legible.delimited {l : List Symbol} (legible : Legible l) :
    Delimited (tokensOfSymbols d l) :=
  fun _ first => (legible.starts first).1

theorem denotationsOf_cons (x : Symbol) (rest : List Symbol) :
    denotationsOf (x :: rest) = x.denotation?.toList ++ denotationsOf rest := by
  cases h : x.denotation? <;> simp [denotationsOf, h]

/-- Where a unit is read, and the rest as other symbols, all of it is read. -/
theorem readUnits_of_readUnit {notes notes' : List Denotation} {t : Token} {more s : List Token}
    {unit others : List Symbol} {n : Nat}
    (first : readUnit notes (t :: more) = some (unit, notes', s))
    (onward : readUnits n notes' s = some others) :
    readUnits (n + 1) notes (t :: more) = some (unit ++ others) := by
  simp [readUnits, first, onward]

/-- What is legible is recovered from its tokens and its notes, with the values that its literals state. -/
theorem readUnits_tokens {l : List Symbol} (legible : Legible l) {n : Nat}
    (enough : l.length ≤ n) :
    readUnits n (denotationsOf l) (tokensOfSymbols d l) = some (l.map Symbol.stated) := by
  induction legible generalizing n with
  | nil => cases n <;> rfl
  | @unit x rest alone onward ih =>
    rw [List.length_cons] at enough
    obtain ⟨n, rfl⟩ : ∃ m, n = m + 1 := ⟨n - 1, by omega⟩
    have first := readUnit_tokens (d := d) alone (denotationsOf rest) (onward.delimited (d := d))
    obtain ⟨t, more, tokens, -⟩ := starts_unit (d := d) alone
    rw [denotationsOf_cons, tokensOfSymbols_cons]
    rw [tokens, List.cons_append] at first ⊢
    exact readUnits_of_readUnit first (ih (by omega))
  | @table t rest other onward ih =>
    simp only [List.length_cons] at enough
    obtain ⟨n, rfl⟩ : ∃ m, n = m + 1 := ⟨n - 1, by omega⟩
    have apart : (tokensOfSymbols d rest).head? ≠ some (.word "AS") := fun first =>
      other ((onward.starts first).2 rfl)
    exact readUnits_of_readUnit (readUnit_table (d := d) t (denotationsOf rest) apart)
      (ih (by omega))
  | @subquery rest onward ih =>
    simp only [List.length_cons] at enough
    obtain ⟨n, rfl⟩ : ∃ m, n = m + 2 := ⟨n - 2, by omega⟩
    have parenthesis : readUnits (n + 1) (denotationsOf rest) (.sign "(" :: tokensOfSymbols d rest) =
        some ([.sign "("] ++ rest.map Symbol.stated) := readUnits_of_readUnit rfl (ih (by omega))
    have word : readUnit (denotationsOf rest) (.word "FROM" :: .sign "(" :: tokensOfSymbols d rest) =
        some ([.word "FROM"], denotationsOf rest, .sign "(" :: tokensOfSymbols d rest) := rfl
    exact readUnits_of_readUnit word parenthesis
  | @test rest onward ih =>
    simp only [List.length_cons] at enough
    obtain ⟨n, rfl⟩ : ∃ m, n = m + 1 := ⟨n - 1, by omega⟩
    have first : readUnit (denotationsOf rest)
        (.word "IS" :: .word "NOT" :: .word "TRUE" :: tokensOfSymbols d rest) =
          some ([.word "IS", .word "NOT", .word "TRUE"], denotationsOf rest, tokensOfSymbols d rest) :=
      rfl
    exact readUnits_of_readUnit first (ih (by omega))

/-- Each symbol has a token of its own at least. -/
theorem Legible.length_le {l : List Symbol} (legible : Legible l) :
    l.length ≤ (tokensOfSymbols d l).length := by
  induction legible with
  | nil => exact Nat.le_refl 0
  | unit alone onward ih =>
    obtain ⟨t, more, tokens, -⟩ := starts_unit (d := d) alone
    rw [tokensOfSymbols_cons, tokens, List.length_append, List.length_cons, List.length_cons]
    omega
  | table t other onward ih =>
    simp only [tokensOfSymbols_cons, Symbol.tokens, List.length_append, List.length_cons,
      List.length_nil]
    omega
  | subquery onward ih | test onward ih =>
    simp only [tokensOfSymbols_cons, Symbol.tokens, List.length_append, List.length_cons,
      List.length_nil]
    omega

end Reading

/-! ## Conditions are legible -/

section Legibility

variable {part rest : List Symbol}

/-- Legible symbols behind legible ones are legible, unless they would be read as an alias. -/
theorem Legible.append {l : List Symbol} (legible : Legible l) (other : rest.head? ≠ some (.word "AS"))
    (onward : Legible rest) : Legible (l ++ rest) := by
  induction legible with
  | nil => exact onward
  | unit alone _ ih => exact .unit alone ih
  | @table t l apart _ ih =>
    refine .table t ?_ ih
    cases l with
    | nil => exact other
    | cons x more => exact apart
  | subquery _ ih => exact .subquery ih
  | test _ ih => exact .test ih

theorem legible_enclosed (legible : Legible part) (onward : Legible rest) :
    Legible (Symbols.enclosed part ++ rest) := by
  rw [Symbols.enclosed, List.cons_append, List.append_assoc]
  exact .unit rfl (legible.append (by simp) (.unit rfl onward))

theorem legible_maybeNot (negated : Bool) {w : String} (plain : (Symbol.word w).isUnit = true)
    (onward : Legible rest) : Legible (Symbols.maybeNot negated w ++ rest) := by
  cases negated with
  | true => exact .unit rfl (.unit plain onward)
  | false => exact .unit plain onward

theorem legible_compared (relation : Relation) {lhs rhs : List Symbol} (left : Legible lhs)
    (right : Legible rhs) : Legible (Symbols.compared relation lhs rhs) :=
  left.append (by simp) (.unit (by cases relation <;> rfl) right)

theorem legible_membership (negated : Bool) {lhs members : List Symbol} (left : Legible lhs)
    (right : Legible members) : Legible (Symbols.membership negated lhs members) := by
  rw [Symbols.membership, List.append_assoc]
  refine left.append ?_ (legible_maybeNot negated rfl ?_)
  · cases negated <;> simp [Symbols.maybeNot]
  · have enclosed := legible_enclosed right .nil
    rwa [List.append_nil] at enclosed

theorem legible_separated {separator : Symbol} {parts : List (List Symbol)}
    (alone : separator.isUnit = true) (other : separator ≠ .word "AS")
    (each : ∀ part ∈ parts, Legible part) : Legible (separated [separator] parts) := by
  induction parts with
  | nil => exact .nil
  | cons part more ih =>
    have onward := ih fun q h => each q (List.mem_cons_of_mem _ h)
    cases more with
    | nil => exact each part (by simp)
    | cons next more =>
      rw [separated, List.append_assoc]
      · exact (each part (by simp)).append (by simpa using other) (.unit alone onward)
      · simp

theorem legible_listed (members : List Value) : Legible (Symbols.listed members) := by
  refine legible_separated rfl (by simp) fun part hp => ?_
  obtain ⟨v, -, rfl⟩ := List.mem_map.1 hp
  exact .unit rfl .nil

theorem legible_chained (quantifier : Quantifier) {parts : List (List Symbol)}
    (each : ∀ part ∈ parts, Legible part) : Legible (Symbols.chained quantifier parts) := by
  have inside : Legible (separated [.word (Symbols.connectiveWord quantifier)] parts) := by
    refine legible_separated ?_ ?_ each <;> cases quantifier <;> simp [Symbols.connectiveWord, Symbol.isUnit]
  have enclosed := legible_enclosed inside .nil
  rwa [List.append_nil] at enclosed

theorem legible_quantified (relation : Relation) (quantifier : Quantifier)
    {lhs members : List Symbol} (left : Legible lhs) (right : Legible members) :
    Legible (Symbols.quantified relation quantifier lhs members) := by
  have enclosed := legible_enclosed right .nil
  rw [List.append_nil] at enclosed
  exact legible_compared relation left (.unit (by cases quantifier <;> rfl) enclosed)

theorem legible_existing (negated : Bool) {members filter : List Symbol} (label : String)
    (right : Legible members) (onward : Legible filter) :
    Legible (Symbols.existing negated members label filter) := by
  have named : Legible (.word "AS" :: .name label :: .word "WHERE" :: filter) :=
    .unit rfl (.unit rfl (.unit rfl onward))
  have enclosed : Legible (.word "FROM" ::
      (Symbols.enclosed members ++ .word "AS" :: .name label :: .word "WHERE" :: filter)) := by
    rw [Symbols.enclosed, List.cons_append, List.append_assoc]
    exact .subquery (right.append (by simp) (.unit rfl named))
  have whole := legible_enclosed (.unit (x := .word "SELECT") rfl
    (.unit (x := .literal (.integer 1)) rfl enclosed)) .nil
  rw [List.append_nil] at whole
  exact legible_maybeNot negated rfl whole

theorem legible_notTrue (legible : Legible part) : Legible (Symbols.notTrue part) :=
  legible_enclosed legible (.test .nil)

theorem unit_operand {o : Operand} (readable : o.isReadable = true) :
    ∃ x, o.symbols = [x] ∧ x.isUnit = true := by
  cases o with
  | column | member | literal => exact ⟨_, rfl, rfl⟩
  | subquery | verbatim => cases readable

theorem legible_operand {o : Operand} (readable : o.isReadable = true) : Legible o.symbols := by
  obtain ⟨x, symbol, alone⟩ := unit_operand readable
  rw [symbol]
  exact .unit alone .nil

theorem legible_selection {x : Symbol} (alone : x.isUnit = true) (label : String) (source : Table)
    {filter : Option (List Symbol)} (inside : ∀ l ∈ filter, Legible l) :
    Legible (Symbols.selection [x] label source filter) := by
  have tail : Legible (.word "FROM" :: .source source :: filter.elim [] (.word "WHERE" :: ·)) := by
    cases filter with
    | none => exact .table source (by simp) .nil
    | some l => exact .table source (by simp) (.unit rfl (inside l rfl))
  exact .unit rfl (.unit alone (.unit rfl (.unit rfl tail)))

mutual

/-- Tables and columns can be read from what a readable condition is written as. -/
theorem legible_condition : (c : Condition) → c.isReadable = true → Legible c.symbols
  | .compare relation lhs rhs, readable => by
    simp only [Condition.isReadable, Bool.and_eq_true] at readable
    exact legible_compared relation (legible_operand readable.1) (legible_operand readable.2)
  | .inValues negated lhs members, readable => by
    simp only [Condition.isReadable, Bool.and_eq_true] at readable
    exact legible_membership negated (legible_operand readable.1) (legible_listed members)
  | .inQuery negated lhs members, readable => by
    simp only [Condition.isReadable, Bool.and_eq_true] at readable
    exact legible_membership negated (legible_operand readable.1) (legible_subquery members readable.2)
  | .quantified relation quantifier lhs members, readable => by
    simp only [Condition.isReadable, Bool.and_eq_true] at readable
    exact legible_quantified relation quantifier (legible_operand readable.1)
      (legible_subquery members readable.2)
  | .existing negated members label filter, readable => by
    simp only [Condition.isReadable, Bool.and_eq_true] at readable
    exact legible_existing negated label (legible_subquery members readable.1)
      (legible_condition filter readable.2)
  | .notTrue part, readable => legible_notTrue (legible_condition part readable)
  | .any parts, readable => by
    simp only [Condition.isReadable, Bool.and_eq_true] at readable
    exact legible_chained .some (legible_list parts readable.2)
  | .all parts, readable => by
    simp only [Condition.isReadable, Bool.and_eq_true] at readable
    exact legible_chained .all (legible_list parts readable.2)
  | .verbatim _, readable => by cases readable

theorem legible_list : (parts : List Condition) → Condition.listIsReadable parts = true →
    ∀ l ∈ Condition.listSymbols parts, Legible l
  | [], _ => by simp [Condition.listSymbols]
  | c :: rest, readable => by
    simp only [Condition.listIsReadable, Bool.and_eq_true] at readable
    rw [Condition.listSymbols]
    exact List.forall_mem_cons.2 ⟨legible_condition c readable.1, legible_list rest readable.2⟩

theorem legible_option : (filter : Option Condition) → Condition.optionIsReadable filter = true →
    ∀ l ∈ Condition.optionSymbols filter, Legible l
  | none, _ => by simp [Condition.optionSymbols]
  | some c, readable => by
    rintro l ⟨⟩
    exact legible_condition c readable

theorem legible_subquery : (q : Subquery) → q.isReadable = true → Legible q.symbols
  | .select value label source filter, readable => by
    simp only [Subquery.isReadable, Bool.and_eq_true] at readable
    obtain ⟨x, symbol, alone⟩ := unit_operand readable.1
    rw [Subquery.symbols, symbol]
    exact legible_selection alone label source (legible_option filter readable.2)
  | .verbatim _, readable => by cases readable

end

end Legibility

/-! ## Conditions are recovered -/

/-- The condition with stated values is what its tokens are read as, given its notes. -/
theorem readUnits_condition (d : Dialect) {c : Condition} (readable : c.isReadable = true) {n : Nat}
    (enough : (tokensOfSymbols d c.symbols).length ≤ n) :
    readUnits n (denotationsOf c.symbols) (tokensOfSymbols d c.symbols) = some c.stated.symbols := by
  have legible := legible_condition c readable
  rw [readUnits_tokens legible (Nat.le_trans (legible.length_le (d := d)) enough), symbols_stated]
  rfl

end PooledSql.Sql
