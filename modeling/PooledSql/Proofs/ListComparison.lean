import PooledSql.Proofs.Agreement
import PooledSql.Proofs.Unambiguous
import PooledSql.Sql.Buffer

/-!
# Comparisons with a list

A comparison with the members of a list is written as `IN` or `NOT IN`, as comparisons with each member
between parentheses, or, over no members, as a comparison of two integers. Whatever the form, the text
says what the comparisons with the members say together, in three truth values.

The text is read here from its tokens alone, given only what the names of columns mean where it stands.
A real that is no finite number is written as `NULL` and read as that. No form has an `OR` outside
parentheses, so the text says the same between other conditions under an `AND`.

Results:
* `readSymbols_tokens`: the symbols of a comparison with a list are recovered from their tokens.
* `truth_listComparison`: the condition that is written has the truth value of all of them together.
* `read_conjunction`: conditions with `AND` between them are read one by one.
* `listText_truth`: all of it, for what is written to a buffer.
-/

namespace PooledSql

/-! ## Values as they are written -/

theorem Value.stated_stated (v : Value) : v.stated.stated = v.stated := by
  cases v with
  | real x => cases finite : x.isFinite <;> simp [stated, finite]
  | null | boolean | integer | text | blob => rfl

/-- The scalar with the value that its literal states, if it is one. -/
def Scalar.stated : Scalar → Scalar
  | .column c => .column c
  | .literal v => .literal v.stated
  | .subquery q => .subquery q
  | .verbatim text uses => .verbatim text uses

theorem Scalar.isOwn_stated (x : Scalar) : x.stated.isOwn = x.isOwn := by
  cases x <;> rfl

theorem Scalar.meaning_stated {V : Type} (w : Contents V) (e : Assignment V) (x : Scalar) :
    x.stated.meaning w e = x.meaning w e := by
  cases x with
  | literal v => simpa [stated, meaning] using w.literal_stated v
  | column | subquery | verbatim => rfl

/-- What the comparisons of a value with the members of a list say together: that some of them holds,
from false on, or that all of them do, from true on. -/
def Contents.overList {V : Type} (w : Contents V) (relation : Relation) (quantifier : Quantifier)
    (a : Option V) (members : List Value) : Sql.Truth :=
  match quantifier with
  | .some => members.foldr (fun v t => (w.compare relation a (w.literal v)).or t) .no
  | .all => members.foldr (fun v t => (w.compare relation a (w.literal v)).and t) .yes

namespace Sql

/-- What the reading of a text computes across a list is the fold over its members. -/
theorem across_eq_overList {V : Type} (w : Contents V) (relation : Relation)
    (quantifier : Quantifier) (a : Option V) (members : List Value) :
    w.reading.across relation quantifier a (members.map w.literal) =
      w.overList relation quantifier a members := by
  cases quantifier with
  | some => simp only [Reading.across, Truth.across, Truth.any, List.foldr_map]; rfl
  | all => simp only [Reading.across, Truth.across, Truth.all, List.foldr_map]; rfl

/-! ## Symbols from tokens -/

section Reader

variable (resolve : String → String → Column)

/-- Reads a literal as the value that it states, a reference to a column as what its names mean, or a
word or a sign. -/
def readSymbol : TokenReader Symbol := fun s =>
  match readValue s with
  | some (v, s) => some (.literal v, s)
  | none =>
    match s with
    | .name table :: .sign "." :: .name name :: s => some (.column (resolve table name), s)
    | .word w :: s => some (.word w, s)
    | .sign x :: s => some (.sign x, s)
    | _ => none

/-- Reads symbols to the end, at most `n`. -/
def readSymbols : Nat → List Token → Option (List Symbol)
  | _, [] => some []
  | 0, _ :: _ => none
  | n + 1, t :: more => do
    let (x, s) ← readSymbol resolve (t :: more)
    return x :: (← readSymbols n s)

/-- The symbols of a text without sub-queries, where names of columns mean what `resolve` says. -/
def symbolsOf (d : Dialect) (text : String) : Option (List Symbol) :=
  (tokens d text).toOption.bind fun s => readSymbols resolve s.length s

/-- The symbol can be told from its tokens: a column that its names mean, a literal of the value that
it states, a word that is no literal, or a sign that is no part of one. -/
def Symbol.IsPlain : Symbol → Prop
  | .column c => resolve c.table c.name = c
  | .literal v => v.stated = v
  | .word w => w ≠ "NULL" ∧ w ≠ "TRUE" ∧ w ≠ "FALSE"
  | .sign s => s ≠ "-" ∧ s ≠ "::"
  | .member _ => False
  | .source _ => False
  | .name _ => False

variable {resolve} {d : Dialect}

theorem readSymbol_tokens {x : Symbol} (plain : x.IsPlain resolve) {rest : List Token}
    (follows : Readback.Follows rest) :
    readSymbol resolve (x.tokens d ++ rest) = some (x, rest) := by
  cases x with
  | column c =>
    have same : resolve c.table c.name = c := plain
    show some (Symbol.column (resolve c.table c.name), rest) = _
    rw [same]
  | literal v =>
    have same : v.stated = v := plain
    unfold readSymbol
    rw [readValue_literal d v follows, same]
  | word w =>
    obtain ⟨null, yes, no⟩ := plain
    have none : readValue (.word w :: rest) = none := by simp [readValue, null, yes, no]
    show readSymbol resolve (.word w :: rest) = _
    simp only [readSymbol, none]
  | sign s =>
    have none : readValue (.sign s :: rest) = none := by simp [readValue, plain.1]
    show readSymbol resolve (.sign s :: rest) = _
    simp only [readSymbol, none]
  | member | source | name => exact plain.elim

/-- The tokens of the symbol start with one that is not the sign of a type. -/
theorem starts_plain {x : Symbol} (plain : x.IsPlain resolve) :
    ∃ t more, x.tokens d = t :: more ∧ t ≠ .sign "::" := by
  cases x with
  | column c => exact ⟨_, _, rfl, by simp⟩
  | literal v =>
    obtain ⟨t, more, tokens, starts⟩ := Readback.startsScalar_literal (d := d) v
    refine ⟨t, more, tokens, ?_⟩
    rintro rfl
    exact absurd starts (by decide)
  | word w => exact ⟨_, _, rfl, by simp⟩
  | sign s => exact ⟨_, _, rfl, by simpa using plain.2⟩
  | member | source | name => exact plain.elim

theorem length_le_tokens {l : List Symbol} (plain : ∀ x ∈ l, x.IsPlain resolve) :
    l.length ≤ (tokensOfSymbols d l).length := by
  induction l with
  | nil => exact Nat.le_refl 0
  | cons x rest ih =>
    have onward := ih fun y hy => plain y (List.mem_cons_of_mem _ hy)
    obtain ⟨t, others, tokens, -⟩ := starts_plain (d := d) (plain x List.mem_cons_self)
    rw [tokensOfSymbols_cons, tokens, List.length_append, List.length_cons, List.length_cons]
    omega

/-- Plain symbols are recovered from their tokens. -/
theorem readSymbols_tokens {l : List Symbol} (plain : ∀ x ∈ l, x.IsPlain resolve) {n : Nat}
    (enough : l.length ≤ n) : readSymbols resolve n (tokensOfSymbols d l) = some l := by
  induction l generalizing n with
  | nil => cases n <;> rfl
  | cons x rest ih =>
    obtain ⟨n, rfl⟩ : ∃ m, n = m + 1 := ⟨n - 1, by simp only [List.length_cons] at enough; omega⟩
    have onward := ih (fun y hy => plain y (List.mem_cons_of_mem _ hy))
      (Nat.le_of_succ_le_succ enough)
    have follows : Readback.Follows (tokensOfSymbols d rest) := by
      cases rest with
      | nil => simp [Readback.Follows]
      | cons y more =>
        obtain ⟨t, others, tokens, other⟩ := starts_plain (d := d) (plain y (by simp))
        simpa [Readback.Follows, tokens] using other
    have first := readSymbol_tokens (d := d) (plain x List.mem_cons_self) follows
    obtain ⟨t, others, tokens, -⟩ := starts_plain (d := d) (plain x List.mem_cons_self)
    rw [tokensOfSymbols_cons]
    rw [tokens, List.cons_append] at first ⊢
    simp only [readSymbols, first, onward, Option.bind_eq_bind, Option.bind_some, Option.pure_def]

end Reader

/-! ## The symbols of a comparison with a list -/

section Symbols

variable {resolve : String → String → Column}

theorem forall_separated {α : Type} {P : α → Prop} {separator : List α} {parts : List (List α)}
    (between : ∀ x ∈ separator, P x) (inside : ∀ part ∈ parts, ∀ x ∈ part, P x) :
    ∀ x ∈ separated separator parts, P x := by
  induction parts with
  | nil => simp [separated]
  | cons part more ih =>
    have first := inside part List.mem_cons_self
    cases more with
    | nil => exact first
    | cons next more =>
      have onward := ih fun q hq => inside q (List.mem_cons_of_mem _ hq)
      exact List.forall_mem_append.2 ⟨List.forall_mem_append.2 ⟨first, between⟩, onward⟩

theorem plain_compared (relation : Relation) {lhs rhs : List Symbol}
    (left : ∀ x ∈ lhs, x.IsPlain resolve) (right : ∀ x ∈ rhs, x.IsPlain resolve) :
    ∀ x ∈ Symbols.compared relation lhs rhs, x.IsPlain resolve := by
  refine List.forall_mem_append.2 ⟨left, List.forall_mem_cons.2 ⟨?_, right⟩⟩
  cases relation <;> exact ⟨by decide, by decide⟩

theorem plain_enclosed {part : List Symbol} (inside : ∀ x ∈ part, x.IsPlain resolve) :
    ∀ x ∈ Symbols.enclosed part, x.IsPlain resolve := by
  have close : ∀ x ∈ [Symbol.sign ")"], x.IsPlain resolve := by simp [Symbol.IsPlain]
  refine List.forall_mem_cons.2 ⟨?_, List.forall_mem_append.2 ⟨inside, close⟩⟩
  exact ⟨by decide, by decide⟩

theorem plain_maybeNot (negated : Bool) :
    ∀ x ∈ Symbols.maybeNot negated "IN", x.IsPlain resolve := by
  cases negated <;> simp [Symbols.maybeNot, Symbol.IsPlain]

/-- Whatever form it takes, a comparison with a list has plain symbols if its parts do. -/
theorem plain_valuesSymbols (relation : Relation) (quantifier : Quantifier) {lhs : List Symbol}
    {members : List Value} (left : ∀ x ∈ lhs, x.IsPlain resolve)
    (stated : ∀ v ∈ members, v.stated = v) :
    ∀ x ∈ valuesSymbols relation quantifier lhs members, x.IsPlain resolve := by
  have literal {v : Value} (hv : v.stated = v) : ∀ x ∈ [Symbol.literal v], x.IsPlain resolve :=
    List.forall_mem_singleton.2 hv
  unfold valuesSymbols
  split
  · exact plain_compared _ (literal rfl) (literal rfl)
  · split
    · have list : ∀ x ∈ Symbols.listed members, x.IsPlain resolve :=
        forall_separated (by simp [Symbol.IsPlain]) (List.forall_mem_map.2 fun v hv =>
          literal (stated v hv))
      exact List.forall_mem_append.2
        ⟨List.forall_mem_append.2 ⟨left, plain_maybeNot _⟩, plain_enclosed list⟩
    · refine plain_enclosed (forall_separated ?_ (List.forall_mem_map.2 fun v hv =>
        plain_compared relation left (literal (stated v hv))))
      cases quantifier <;> simp [Symbols.connectiveWord, Symbol.IsPlain]

theorem plain_scalar {x : Scalar} (resolved : ∀ c, x = .column c → resolve c.table c.name = c) :
    ∀ y ∈ scalarSymbols x.stated, y.IsPlain resolve := by
  cases x with
  | column c => exact List.forall_mem_singleton.2 (resolved c rfl)
  | literal v => exact List.forall_mem_singleton.2 v.stated_stated
  | subquery | verbatim => simp [Scalar.stated, scalarSymbols]

end Symbols

/-! ## The condition that is written -/

/-- A comparison with the members of a list, with all values as they are written. -/
def listComparison (relation : Relation) (quantifier : Quantifier) (lhs : Scalar)
    (members : List Value) : Condition :=
  valuesCondition relation quantifier (Scalar.operand lhs.stated) (members.map Value.stated)

/-- The text of a condition in a dialect. -/
def Condition.text (d : Dialect) (c : Condition) : String := String.ofList (spell (c.pieces d))

section Listed

variable {relation : Relation} {quantifier : Quantifier} {lhs : Scalar} {members : List Value}

theorem readable_listComparison (own : lhs.isOwn = true) :
    (listComparison relation quantifier lhs members).isReadable = true :=
  readable_valuesCondition _ (readable_operand (lhs.isOwn_stated.trans own))

/-- What a comparison with a list is written as, form by form. -/
theorem symbols_listComparison :
    (listComparison relation quantifier lhs members).symbols =
      valuesSymbols relation quantifier (scalarSymbols lhs.stated) (members.map Value.stated) := by
  rw [listComparison, symbols_valuesCondition, symbols_operand]

/-- The condition has the truth value of the comparisons together. -/
theorem truth_listComparison (own : lhs.isOwn = true) {V : Type} (w : Contents V)
    (s : Surroundings V) :
    (listComparison relation quantifier lhs members).truth w.reading s =
      w.overList relation quantifier (lhs.meaning w s.columns) members := by
  have left : Always (pure (Scalar.operand lhs.stated))
      (Operand.Means w · fun e => lhs.meaning w e) := by
    -- the operand is the same in either dialect
    have means := means_scalar w .sqlite lhs.stated
    simpa only [encode_scalar _ (lhs.isOwn_stated.trans own), Scalar.meaning_stated] using means
  have forms : Always (encodeValues relation quantifier (pure (Scalar.operand lhs.stated))
      (members.map Value.stated)) (ValuesForm relation quantifier
        (Operand.Means w · fun e => lhs.meaning w e) (members.map Value.stated)) :=
    always_encodeValues (members.map Value.stated) left
  rw [encodeValues_pure] at forms
  have literals : (members.map Value.stated).map w.literal = members.map w.literal := by
    rw [List.map_map]
    exact List.map_congr_left fun v _ => w.literal_stated v
  rw [← across_eq_overList, ← literals]
  exact truth_valuesForm w (forms 0) s

/-- A buffer writes a comparison with a list without a name of its own. -/
theorem write_listComparison (b : Buffer) (own : lhs.isOwn = true) :
    (b.write (.collective relation lhs (.values quantifier members))).1 =
      (listComparison relation quantifier lhs members).text b.dialect := by
  have left : (Scalar.operand lhs.stated).pieces b.dialect =
      (Scalar.operand lhs).pieces b.dialect := by
    cases lhs with
    | literal v => exact literal_stated b.dialect v
    | column | subquery | verbatim => rfl
  rw [Buffer.write, Writing.pieces, Predicate.encode, Collective.encode, encode_scalar _ own,
    encodeValues_pure, Condition.text, listComparison,
    pieces_valuesCondition relation quantifier left]
  rfl

end Listed

/-! ## Conditions under an `AND` -/

section Conjunctions

variable {d : Dialect} {parts : List Condition}

theorem listPieces_eq_map (d : Dialect) (parts : List Condition) :
    Condition.listPieces d parts = parts.map (Condition.pieces d) := by
  induction parts with
  | nil => rfl
  | cons c rest ih => rw [Condition.listPieces, ih, List.map_cons]

theorem text_conjunction (d : Dialect) (parts : List Condition) :
    " AND ".intercalate (parts.map (Condition.text d)) =
      String.ofList (spell (separated (connective "AND") (Condition.listPieces d parts))) := by
  have texts : (parts.map (Condition.text d)).map String.toList =
      (parts.map (Condition.pieces d)).map spell := by
    simp [Condition.text, Function.comp_def]
  have word : spell (connective "AND") = " AND ".toList := by decide
  rw [← String.toList_inj, String.toList_intercalate, texts, intercalate_eq_separated,
    listPieces_eq_map, map_separated rfl spell_append, word]
  exact String.toList_ofList.symm

/-- The text of conditions with `AND` between them has the tokens of their symbols. -/
theorem tokens_conjunction (readable : ∀ c ∈ parts, c.isReadable = true) :
    tokens d (" AND ".intercalate (parts.map (Condition.text d))) =
      .ok (tokensOfSymbols d (separated [.word "AND"] (parts.map Condition.symbols))) := by
  have readable := listIsReadable_iff.2 readable
  have splits : Splits d (separated (connective "AND") (Condition.listPieces d parts)) [] :=
    splits_separated (fun _ => stops_blank) (fun _ => splits_connective (by decide))
      (splits_list parts readable) trivial
  have chain := tokensOf_chain (d := d) .all parts readable
  rw [text_conjunction, tokens, lex, String.toList_ofList, lexFrom_spell splits,
    ← listSymbols_eq_map]
  exact congrArg Except.ok chain

/-- Conditions with `AND` between them are read one by one, and hold together. -/
theorem read_conjunction (some' : parts ≠ []) (readable : ∀ c ∈ parts, c.isReadable = true) :
    ∃ c, read (separated [.word "AND"] (parts.map Condition.symbols)) = some c ∧
      ∀ {V : Type} (w : Contents V) (s : Surroundings V),
        c.truth w.reading s = .all (parts.map fun c => c.truth w.reading s) := by
  refine ⟨_, read_chain .all some' readable, fun w s => ?_⟩
  rw [truth_gathered, List.map_map]
  exact congrArg Truth.all (List.map_congr_left fun c _ => truth_normal (fun _ _ _ _ _ => rfl) c s)

end Conjunctions

/-! ## All of it -/

/-- What is written for a comparison of a column or a literal with the members of a list is read, from
its tokens alone, as a condition that says what the comparisons with the members say together,
whatever the values are and however they compare. Reals that are no finite numbers are not among what
is read. Between other conditions under an `AND`, the text still is one of the conditions that are
taken together, and says the same. -/
theorem listText_truth (b : Buffer) (relation : Relation) (quantifier : Quantifier)
    {lhs : Scalar} (own : lhs.isOwn = true) (members : List Value)
    {resolve : String → String → Column}
    (resolved : ∀ c, lhs = .column c → resolve c.table c.name = c) :
    let text := (b.write (.collective relation lhs (.values quantifier members))).1
    ∃ units, symbolsOf resolve b.dialect text = some units ∧
      (∀ x : Double, x.isFinite = false → .literal (.real x) ∉ units) ∧
      (∃ c, read units = some c ∧ ∀ {V : Type} (w : Contents V) (s : Surroundings V),
        c.truth w.reading s =
          w.overList relation quantifier (lhs.meaning w s.columns) members) ∧
      ∀ before after : List Condition, (∀ c ∈ before ++ after, c.isReadable = true) →
        tokens b.dialect (" AND ".intercalate
            (before.map (Condition.text b.dialect) ++ text ::
              after.map (Condition.text b.dialect))) =
          .ok (tokensOfSymbols b.dialect (separated [.word "AND"]
            (before.map Condition.symbols ++ units :: after.map Condition.symbols))) ∧
        ∃ c, read (separated [.word "AND"]
            (before.map Condition.symbols ++ units :: after.map Condition.symbols)) = some c ∧
          ∀ {V : Type} (w : Contents V) (s : Surroundings V), c.truth w.reading s =
            .all (before.map (fun c => c.truth w.reading s) ++
              w.overList relation quantifier (lhs.meaning w s.columns) members ::
                after.map fun c => c.truth w.reading s) := by
  intro text
  have written : text = (listComparison relation quantifier lhs members).text b.dialect :=
    write_listComparison b own
  have readable : (listComparison relation quantifier lhs members).isReadable = true :=
    readable_listComparison own
  have plain : ∀ x ∈ (listComparison relation quantifier lhs members).symbols, x.IsPlain resolve := by
    rw [symbols_listComparison]
    exact plain_valuesSymbols _ _ (plain_scalar resolved)
      (List.forall_mem_map.2 fun v _ => v.stated_stated)
  refine ⟨(listComparison relation quantifier lhs members).symbols, ?_, ?_, ?_, ?_⟩
  · rw [written, symbolsOf, Condition.text, tokens_spell readable]
    exact readSymbols_tokens plain (length_le_tokens plain)
  · intro x infinite mentioned
    have stated : (Value.real x).stated = .real x := plain _ mentioned
    simp [Value.stated, infinite] at stated
  · refine ⟨_, read_symbols readable, fun w s => ?_⟩
    rw [truth_normal (fun _ _ _ _ _ => rfl), truth_listComparison own]
  · intro before after others
    have all : ∀ c ∈ before ++ listComparison relation quantifier lhs members :: after,
        c.isReadable = true := by
      have outside := List.forall_mem_append.1 others
      exact List.forall_mem_append.2
        ⟨outside.1, List.forall_mem_cons.2 ⟨readable, outside.2⟩⟩
    obtain ⟨c, reads, truth⟩ := read_conjunction (by simp) all
    have tokens := tokens_conjunction (d := b.dialect) all
    rw [List.map_append, List.map_cons] at reads tokens
    rw [List.map_append, List.map_cons, ← written] at tokens
    refine ⟨tokens, c, reads, fun w s => ?_⟩
    rw [truth, List.map_append, List.map_cons, truth_listComparison own]

/-- An order whose total is none of 7, an absent value and an infinite one. If the total is 5 that is
unknown, also together with something that is true, and if it is 7 it is false. -/
theorem listText_truth_orders :
    let lhs : Scalar := .column ⟨⟨1⟩, "orders", "total"⟩
    let members : List Value := [.integer 7, .null, .real ⟨0x7ff0000000000000⟩]
    let resolve (table name : String) : Column := ⟨⟨1⟩, table, name⟩
    let text := ((Buffer.mk .postgres 0 "").write
      (.collective .notEqual lhs (.values .all members))).1
    let above : Condition :=
      .compare .greater (.column ⟨⟨1⟩, "orders", "total"⟩) (.literal (.integer 3))
    lhs.isOwn = true ∧ (∀ c, lhs = .column c → resolve c.table c.name = c) ∧
      above.isReadable = true ∧
      ∃ units c c', symbolsOf resolve .postgres text = some units ∧ read units = some c ∧
        c.truth payments.reading ⟨fun _ => some 5, fun _ => none⟩ = .unknown ∧
        c.truth payments.reading ⟨fun _ => some 7, fun _ => none⟩ = .no ∧
        read (separated [.word "AND"] [above.symbols, units]) = some c' ∧
        c'.truth payments.reading ⟨fun _ => some 5, fun _ => none⟩ = .unknown := by
  intro lhs members resolve text above
  have own : lhs.isOwn = true := rfl
  have resolved : ∀ c, lhs = .column c → resolve c.table c.name = c :=
    fun c same => Scalar.column.inj same ▸ rfl
  have readable : above.isReadable = true := rfl
  obtain ⟨units, read, -, ⟨c, reads, truth⟩, together⟩ :=
    listText_truth (Buffer.mk .postgres 0 "") .notEqual .all own members resolved
  obtain ⟨-, c', reads', truth'⟩ := together [above] [] (by simpa using readable)
  refine ⟨own, resolved, readable, units, c, c', read, reads, ?_, ?_, reads', ?_⟩
  · rw [truth]
    decide
  · rw [truth]
    decide
  · rw [truth']
    decide

end Sql

end PooledSql
