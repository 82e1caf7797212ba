import PooledSql.Proofs.Rendering.Literals

/-!
# What names and values contain stays inside them

The text of a predicate splits into the tokens that its tree prescribes, whatever its names, texts
and byte strings contain. None of that reaches the structure: parentheses pair up, and trees of the
same outline, which forgets what names and texts contain, have the same tokens up to that.

Results:
* `balanced_symbols`: the parentheses of a predicate's symbols pair up.
* `symbols_outline`: the symbols of the outline are the outline of the symbols.
* `quoting_contains`: all of it, for the text of a predicate.
-/

namespace PooledSql

/-! ## Outlines -/

/-- The value without what a text contains. -/
def Value.outline : Value → Value
  | .text _ => .text ""
  | .null => .null
  | .boolean b => .boolean b
  | .integer n => .integer n
  | .real x => .real x
  | .blob bytes => .blob bytes

/-- Some column, without its names. -/
def Column.outline (_ : Column) : Column := ⟨⟨0⟩, "", ""⟩

/-- The table without its names and columns; only whether the two names are one. -/
def Table.outline (t : Table) : Table := ⟨"", if t.isAliased then "alias" else "", []⟩

/-- The scalar without what its names and text contain. -/
def Scalar.outline : Scalar → Scalar
  | .column c => .column c.outline
  | .literal v => .literal v.outline
  | .subquery q => .subquery q
  | .verbatim text uses => .verbatim text uses

mutual

/-- The query without what its names and texts contain. -/
def Query.outline : Query → Query
  | .select source value filter =>
    .select source.outline value.outline (Predicate.optionOutline filter)
  | .verbatim text uses => .verbatim text uses

/-- The collection without what its names and texts contain. -/
def Collective.outline : Collective → Collective
  | .values quantifier members => .values quantifier (members.map Value.outline)
  | .query quantifier members => .query quantifier members.outline

/-- The predicate without what its names and texts contain. -/
def Predicate.outline : Predicate → Predicate
  | .compare relation lhs rhs => .compare relation lhs.outline rhs.outline
  | .collective relation lhs rhs => .collective relation lhs.outline rhs.outline
  | .all parts => .all parts
  | .verbatim text uses => .verbatim text uses

/-- The filter without what its names and texts contain. -/
def Predicate.optionOutline : Option Predicate → Option Predicate
  | none => none
  | some p => some p.outline

end

theorem isAliased_outline (t : Table) : t.outline.isAliased = t.isAliased := by
  unfold Table.outline Table.isAliased
  cases t.name != t.label <;> rfl

namespace Sql

/-- The token without what a name or a text contains. -/
def Token.outline : Token → Token
  | .name _ => .name ""
  | .text _ => .text ""
  | .word s => .word s
  | .number s => .number s
  | .bytes digits => .bytes digits
  | .sign s => .sign s

/-- The symbol without what the tree's names and texts contain. -/
def Symbol.outline : Symbol → Symbol
  | .column c => .column c.outline
  | .literal v => .literal v.outline
  | .source t => .source t.outline
  | .member label => .member label
  | .name s => .name s
  | .word s => .word s
  | .sign s => .sign s

/-! ## The symbols of an outline -/

section Outline

theorem outline_enclosed (part : List Symbol) :
    (Symbols.enclosed part).map Symbol.outline = Symbols.enclosed (part.map Symbol.outline) := by
  simp [Symbols.enclosed, Symbol.outline]

theorem outline_compared (relation : Relation) (lhs rhs : List Symbol) :
    (Symbols.compared relation lhs rhs).map Symbol.outline =
      Symbols.compared relation (lhs.map Symbol.outline) (rhs.map Symbol.outline) := by
  simp [Symbols.compared, Symbol.outline]

theorem outline_maybeNot (negated : Bool) (w : String) :
    (Symbols.maybeNot negated w).map Symbol.outline = Symbols.maybeNot negated w := by
  cases negated <;> rfl

theorem outline_membership (negated : Bool) (lhs members : List Symbol) :
    (Symbols.membership negated lhs members).map Symbol.outline =
      Symbols.membership negated (lhs.map Symbol.outline) (members.map Symbol.outline) := by
  simp [Symbols.membership, outline_maybeNot, outline_enclosed]

theorem outline_separated (separator : Symbol) (parts : List (List Symbol)) :
    (separated [separator] parts).map Symbol.outline =
      separated [separator.outline] (parts.map (List.map Symbol.outline)) :=
  map_separated List.map_nil (fun _ _ => List.map_append) [separator] parts

theorem outline_valuesSymbols (relation : Relation) (quantifier : Quantifier) (lhs : List Symbol)
    (members : List Value) :
    (valuesSymbols relation quantifier lhs members).map Symbol.outline =
      valuesSymbols relation quantifier (lhs.map Symbol.outline) (members.map Value.outline) := by
  unfold valuesSymbols
  rw [List.isEmpty_map]
  split
  · cases quantifier <;> rfl
  · cases membership? relation quantifier with
    | some negated =>
      simp [outline_membership, Symbols.listed, outline_separated, Symbol.outline,
        Function.comp_def]
    | none =>
      simp [Symbols.chained, outline_enclosed, outline_separated, outline_compared,
        Symbol.outline, Function.comp_def]

theorem outline_querySymbols (d : Dialect) (relation : Relation) (quantifier : Quantifier)
    (lhs : List Symbol) (members : Naming (List Symbol)) :
    List.map Symbol.outline <$> querySymbols d relation quantifier lhs members =
      querySymbols d relation quantifier (lhs.map Symbol.outline)
        (List.map Symbol.outline <$> members) := by
  unfold querySymbols
  cases membership? relation quantifier with
  | some negated => simp only [map_bind, map_pure, bind_map_left, outline_membership]
  | none =>
    dsimp only
    split
    · simp only [map_bind, map_pure, bind_map_left, Symbols.quantified, outline_compared,
        List.map_cons, outline_enclosed, Symbol.outline]
    · cases quantifier <;>
        simp only [map_bind, map_pure, bind_map_left, Symbols.existing, Symbols.notTrue,
          List.map_append, List.map_cons, List.map_nil, outline_maybeNot, outline_enclosed,
          outline_compared, Symbol.outline, Value.outline]

theorem outline_scalarSymbols (x : Scalar) :
    (scalarSymbols x).map Symbol.outline = scalarSymbols x.outline := by
  cases x <;> rfl

mutual

theorem outline_query (d : Dialect) (label : String) : (q : Query) →
    List.map Symbol.outline <$> Query.symbols d label q = Query.symbols d label q.outline
  | .select source value filter => by
    rw [Query.symbols, Query.outline, Query.symbols, ← outline_option d filter]
    simp only [map_bind, map_pure, bind_map_left, ← outline_scalarSymbols]
    refine congrArg _ (funext fun written => ?_)
    cases written <;> simp [Symbols.selection, Symbol.outline]
  | .verbatim _ _ => rfl

/-- The outline of what is written is what is written of the outline. -/
theorem outline_predicate (d : Dialect) : (p : Predicate) →
    List.map Symbol.outline <$> Predicate.symbols d p = Predicate.symbols d p.outline
  | .compare relation lhs rhs => by
    rw [Predicate.symbols, Predicate.outline, Predicate.symbols, map_pure, outline_compared,
      outline_scalarSymbols, outline_scalarSymbols]
  | .collective relation lhs (.values quantifier members) => by
    rw [Predicate.symbols, Collective.symbols, Predicate.outline, Collective.outline,
      Predicate.symbols, Collective.symbols, map_pure, outline_valuesSymbols,
      outline_scalarSymbols]
  | .collective relation lhs (.query quantifier members) => by
    rw [Predicate.symbols, Collective.symbols, Predicate.outline, Collective.outline,
      Predicate.symbols, Collective.symbols, outline_querySymbols,
      outline_query d valueAlias members, outline_scalarSymbols]
  | .all _ => rfl
  | .verbatim _ _ => rfl

theorem outline_option (d : Dialect) : (filter : Option Predicate) →
    Option.map (List.map Symbol.outline) <$> Predicate.optionSymbols d filter =
      Predicate.optionSymbols d (Predicate.optionOutline filter)
  | none => rfl
  | some p => by
    rw [Predicate.optionSymbols, Predicate.optionOutline, Predicate.optionSymbols,
      ← outline_predicate d p]
    simp only [map_bind, map_pure, bind_map_left, Option.map_some]

end

/-- The symbols of the outline are the outline of the symbols. -/
theorem symbols_outline (d : Dialect) (p : Predicate) :
    symbols d p.outline = (symbols d p).map Symbol.outline :=
  congrArg (fun x : Naming (List Symbol) => (x.run 0).1) (outline_predicate d p).symm

end Outline

/-- Symbols with one outline have tokens with one outline. -/
theorem tokens_outline (d : Dialect) (x : Symbol) :
    (x.outline.tokens d).map Token.outline = (x.tokens d).map Token.outline := by
  cases x with
  | column | name | word | sign | member => rfl
  | literal v => cases v <;> rfl
  | source t =>
    simp only [Symbol.outline, Symbol.tokens, isAliased_outline]
    split <;> rfl

theorem tokensOfSymbols_outline (d : Dialect) (l : List Symbol) :
    (tokensOfSymbols d (l.map Symbol.outline)).map Token.outline =
      (tokensOfSymbols d l).map Token.outline := by
  induction l with
  | nil => rfl
  | cons x more ih =>
    rw [List.map_cons, tokensOfSymbols_cons, tokensOfSymbols_cons, List.map_append,
      List.map_append, tokens_outline, ih]

/-! ## Parentheses -/

/-- How many parentheses are open after a token, if `n` are before it; none if it closes one that
was not opened. -/
def nest (n : Nat) (t : Token) : Option Nat :=
  if t = .sign "(" then some (n + 1)
  else if t = .sign ")" then (if n = 0 then none else some (n - 1))
  else some n

/-- All parentheses that the tokens open they close again, and no others. -/
def Balanced (tokens : List Token) : Prop := ∀ n, tokens.foldlM nest n = some n

theorem balanced_nil : Balanced [] := fun _ => rfl

theorem balanced_append {a b : List Token} (ha : Balanced a) (hb : Balanced b) :
    Balanced (a ++ b) := by
  intro n
  rw [List.foldlM_append, ha n]
  exact hb n

theorem balanced_flat {tokens : List Token}
    (flat : ∀ t ∈ tokens, t ≠ .sign "(" ∧ t ≠ .sign ")") : Balanced tokens := by
  intro n
  induction tokens with
  | nil => rfl
  | cons t rest ih =>
    obtain ⟨opens, closes⟩ := flat t (by simp)
    rw [List.foldlM_cons, nest, if_neg opens, if_neg closes]
    exact ih fun t' h => flat t' (List.mem_cons_of_mem _ h)

theorem balanced_enclosed {tokens : List Token} (h : Balanced tokens) :
    Balanced (.sign "(" :: (tokens ++ [.sign ")"])) := by
  intro n
  have opened : nest n (.sign "(") = some (n + 1) := rfl
  have closed : nest (n + 1) (.sign ")") = some n := rfl
  simp only [List.foldlM_cons, List.foldlM_append, opened, closed, Option.bind_eq_bind,
    Option.bind_some, h (n + 1), List.foldlM_nil]
  rfl

/-- The parentheses of the symbols pair up. -/
def Level (d : Dialect) (symbols : List Symbol) : Prop := Balanced (tokensOfSymbols d symbols)

section Level

variable {d : Dialect}

theorem level_append {a b : List Symbol} (ha : Level d a) (hb : Level d b) : Level d (a ++ b) := by
  rw [Level, tokensOfSymbols_append]
  exact balanced_append ha hb

theorem level_enclosed {part : List Symbol} (h : Level d part) :
    Level d (Symbols.enclosed part) := by
  rw [Level, Symbols.enclosed, tokensOfSymbols_cons, tokensOfSymbols_append]
  exact balanced_enclosed h

/-- A symbol that is no parenthesis. -/
def Symbol.isFlat (x : Symbol) : Bool := x != .sign "(" && x != .sign ")"

theorem flat_number (negative : Bool) (digits : List Char) :
    ∀ t ∈ numberTokens negative digits, t ≠ .sign "(" ∧ t ≠ .sign ")" := by
  cases negative <;> simp [numberTokens]

theorem flat_literal (v : Value) :
    ∀ t ∈ literalTokens d v, t ≠ .sign "(" ∧ t ≠ .sign ")" := by
  cases v with
  | null | boolean | text => simp [literalTokens]
  | integer n => exact flat_number _ _
  | real x =>
    rw [literalTokens]
    split
    · exact flat_number _ _
    · simp
  | blob bytes => cases d <;> simp [literalTokens, blobTokens]

theorem balanced_symbol {x : Symbol} (flat : x.isFlat = true) : Balanced (x.tokens d) := by
  refine balanced_flat fun t ht => ?_
  cases x with
  | column | member =>
    simp only [Symbol.tokens, List.mem_cons, List.not_mem_nil, or_false] at ht
    rcases ht with rfl | rfl | rfl <;> simp
  | name | word =>
    rw [List.mem_singleton.1 ht]
    simp
  | sign s =>
    rw [List.mem_singleton.1 ht]
    simpa [Symbol.isFlat] using flat
  | literal v => exact flat_literal v t ht
  | source table =>
    simp only [Symbol.tokens, List.mem_cons] at ht
    rcases ht with rfl | ht
    · simp
    · split at ht
      · simp only [List.mem_cons, List.not_mem_nil, or_false] at ht
        rcases ht with rfl | rfl <;> simp
      · cases ht

theorem level_flat {l : List Symbol} (flat : ∀ x ∈ l, x.isFlat = true) : Level d l := by
  induction l with
  | nil => exact balanced_nil
  | cons x more ih =>
    exact balanced_append (balanced_symbol (flat x (by simp)))
      (ih fun y h => flat y (List.mem_cons_of_mem _ h))

theorem level_cons {x : Symbol} {more : List Symbol} (flat : x.isFlat = true) (h : Level d more) :
    Level d (x :: more) :=
  balanced_append (balanced_symbol flat) h

theorem level_separated {separator : Symbol} {parts : List (List Symbol)}
    (flat : separator.isFlat = true) (each : ∀ part ∈ parts, Level d part) :
    Level d (separated [separator] parts) := by
  induction parts with
  | nil => exact balanced_nil
  | cons part more ih =>
    have onward := ih fun p h => each p (List.mem_cons_of_mem _ h)
    cases more with
    | nil => exact each part (by simp)
    | cons next more =>
      exact level_append (level_append (each part (by simp)) (level_flat (by simpa using flat)))
        onward

theorem level_compared (relation : Relation) {lhs rhs : List Symbol} (hl : Level d lhs)
    (hr : Level d rhs) : Level d (Symbols.compared relation lhs rhs) :=
  level_append hl (level_cons (by cases relation <;> decide) hr)

theorem level_maybeNot (negated : Bool) {w : String} : Level d (Symbols.maybeNot negated w) := by
  cases negated with
  | true => exact level_flat (by simp [Symbols.maybeNot, Symbol.isFlat])
  | false => exact level_flat (by simp [Symbols.maybeNot, Symbol.isFlat])

theorem level_membership (negated : Bool) {lhs members : List Symbol} (hl : Level d lhs)
    (hm : Level d members) : Level d (Symbols.membership negated lhs members) :=
  level_append (level_append hl (level_maybeNot negated)) (level_enclosed hm)

theorem level_literal (v : Value) : Level d [.literal v] := level_flat (by simp [Symbol.isFlat])

theorem level_listed (members : List Value) : Level d (Symbols.listed members) := by
  refine level_separated (by decide) fun part hp => ?_
  obtain ⟨v, -, rfl⟩ := List.mem_map.1 hp
  exact level_literal v

theorem level_notTrue {part : List Symbol} (h : Level d part) : Level d (Symbols.notTrue part) :=
  level_append (level_enclosed h) (level_flat (by decide))

theorem level_existing (negated : Bool) {members filter : List Symbol} (label : String)
    (hm : Level d members) (hf : Level d filter) :
    Level d (Symbols.existing negated members label filter) := by
  refine level_append (level_maybeNot negated) (level_enclosed ?_)
  refine level_cons (by decide) (level_cons (by decide) (level_cons (by decide) ?_))
  refine level_append (level_enclosed hm) (level_cons (by decide) ?_)
  exact level_cons (by simp [Symbol.isFlat]) (level_cons (by decide) hf)

theorem level_valuesSymbols (relation : Relation) (quantifier : Quantifier) {lhs : List Symbol}
    (members : List Value) (hl : Level d lhs) :
    Level d (valuesSymbols relation quantifier lhs members) := by
  unfold valuesSymbols
  split
  · exact level_compared _ (level_literal _) (level_literal _)
  · split
    · exact level_membership _ hl (level_listed members)
    · refine level_enclosed (level_separated (by cases quantifier <;> decide) fun part hp => ?_)
      obtain ⟨v, -, rfl⟩ := List.mem_map.1 hp
      exact level_compared relation hl (level_literal v)

theorem level_querySymbols (relation : Relation) (quantifier : Quantifier) {lhs : List Symbol}
    {members : Naming (List Symbol)} (hl : Level d lhs) (hm : Always members (Level d)) :
    Always (querySymbols d relation quantifier lhs members) (Level d) := by
  unfold querySymbols
  split
  · exact always_bind hm fun m h => always_pure (level_membership _ hl h)
  · split
    · refine always_bind hm fun m h => always_pure (level_compared relation hl ?_)
      exact level_cons (by cases quantifier <;> decide) (level_enclosed h)
    · refine always_bind always_freshAlias fun label _ => always_bind hm fun m h => ?_
      have comparison : Level d (Symbols.compared relation lhs [.member label]) :=
        level_compared relation hl (level_flat (by simp [Symbol.isFlat]))
      cases quantifier with
      | some => exact always_pure (level_existing _ label h comparison)
      | all => exact always_pure (level_existing _ label h (level_notTrue comparison))

theorem level_scalarSymbols (x : Scalar) : Level d (scalarSymbols x) := by
  cases x <;> exact level_flat (by simp [scalarSymbols, Symbol.isFlat])

mutual

theorem level_query (label : String) : (q : Query) → Always (Query.symbols d label q) (Level d)
  | .select source value filter => by
    rw [Query.symbols]
    refine always_bind (level_option filter) fun written h => always_pure ?_
    refine level_cons (by decide) (level_append (level_scalarSymbols value) ?_)
    refine level_cons (by decide) (level_cons (by simp [Symbol.isFlat]) ?_)
    refine level_cons (by decide) (level_cons (by simp [Symbol.isFlat]) ?_)
    cases written with
    | none => exact balanced_nil
    | some c => exact level_cons (by decide) (h c rfl)
  | .verbatim _ _ => always_pure balanced_nil

/-- In what a dialect has for a predicate the parentheses match. -/
theorem level_predicate : (p : Predicate) → Always (Predicate.symbols d p) (Level d)
  | .compare relation lhs rhs =>
    always_pure (level_compared relation (level_scalarSymbols lhs) (level_scalarSymbols rhs))
  | .collective relation lhs (.values quantifier members) =>
    always_pure (level_valuesSymbols relation quantifier members (level_scalarSymbols lhs))
  | .collective relation lhs (.query quantifier members) =>
    level_querySymbols relation quantifier (level_scalarSymbols lhs)
      (level_query valueAlias members)
  | .all _ => always_pure balanced_nil
  | .verbatim _ _ => always_pure balanced_nil

theorem level_option : (filter : Option Predicate) →
    Always (Predicate.optionSymbols d filter) fun written => ∀ c, written = some c → Level d c
  | none => always_pure fun _ h => by cases h
  | some p => always_bind (level_predicate p) fun c h => always_pure fun c' hc => by
    cases hc
    exact h

end

/-- The parentheses of a predicate's symbols pair up. -/
theorem balanced_symbols (d : Dialect) (p : Predicate) :
    Balanced (tokensOfSymbols d (symbols d p)) :=
  level_predicate p 0

end Level

/-! ## Names and values in their places -/

/-- The digits that byte strings are written with. -/
def lowerDigits : List Char := "0123456789abcdef".toList

theorem lower_encode (bytes : List UInt8) : ∀ c ∈ Text.Hex.encode bytes, c ∈ lowerDigits := by
  have lower (n : Nat) (h : n < 16) : Text.Hex.digit n ∈ lowerDigits := by
    have each : ∀ m : Fin 16, Text.Hex.digit m.val ∈ lowerDigits := by decide
    exact each ⟨n, h⟩
  induction bytes with
  | nil => simp [Text.Hex.encode]
  | cons b rest ih =>
    have hb : b.toNat < 256 := b.toNat_lt
    simp only [Text.Hex.encode, List.mem_cons]
    rintro c (rfl | rfl | h)
    · exact lower _ (by omega)
    · exact lower _ (by omega)
    · exact ih c h

/-- The text of a predicate has the tokens that its tree prescribes, with names and texts as they
are, byte strings as digits that read back, truth values and what is absent as words, and numbers with
their sign apart; every literal is read back as its value. Its parentheses pair up; and a predicate
that differs only in what names and texts contain has the same tokens up to that. -/
theorem quoting_contains {p : Predicate} (own : p.isOwn = true) (d : Dialect) :
    tokens d (toSql d p) = .ok (tokensOfSymbols d (symbols d p)) ∧
      Balanced (tokensOfSymbols d (symbols d p)) ∧
      (∀ c, (Symbol.column c).tokens d = [.name c.table, .sign ".", .name c.name]) ∧
      (∀ t, (Symbol.source t).tokens d =
        .name t.name :: if t.isAliased then [.word "AS", .name t.label] else []) ∧
      (∀ s, (Symbol.literal (.text s)).tokens d = [.text s]) ∧
      (∀ bytes, ∃ digits, (Symbol.literal (.blob bytes)).tokens d =
          blobTokens (String.ofList digits) d ∧
        (∀ c ∈ digits, c ∈ lowerDigits) ∧ Text.Hex.decode digits = some bytes) ∧
      (Symbol.literal .null).tokens d = [.word "NULL"] ∧
      (∀ b : Bool, (Symbol.literal (.boolean b)).tokens d = [.word (if b then "TRUE" else "FALSE")]) ∧
      (∀ n, (Symbol.literal (.integer n)).tokens d =
        numberTokens (decide (n.toInt < 0)) (Nat.toDigits 10 n.toInt.natAbs)) ∧
      (∀ x : Double, (Symbol.literal (.real x)).tokens d =
        if x.isFinite then
          numberTokens x.isNegative (Number.Layout.literal.digits (Number.Decimal.ofDouble x))
        else [.word "NULL"]) ∧
      (∀ v, readValue ((Symbol.literal v).tokens d) = some (v.stated, [])) ∧
      ∀ q : Predicate, q.isOwn = true → q.outline = p.outline →
        (tokens d (toSql d q)).map (·.map Token.outline) =
          (tokens d (toSql d p)).map (·.map Token.outline) := by
  refine ⟨tokens_toSql own, balanced_symbols d p, fun _ => rfl, fun _ => rfl, fun _ => rfl,
    fun bytes => ?_, rfl, fun _ => rfl, fun _ => rfl, fun _ => rfl, fun v => ?_, fun q hq same => ?_⟩
  · exact ⟨Text.Hex.encode bytes, rfl, lower_encode bytes, Text.Hex.decode_encode bytes⟩
  · rw [← List.append_nil ((Symbol.literal v).tokens d)]
    exact readValue_literal d v (by simp)
  · have alike : (tokensOfSymbols d (symbols d q)).map Token.outline =
        (tokensOfSymbols d (symbols d p)).map Token.outline := by
      rw [← tokensOfSymbols_outline, ← symbols_outline, same, symbols_outline,
        tokensOfSymbols_outline]
    rw [tokens_toSql own, tokens_toSql hq]
    exact congrArg Except.ok alike

/-- Two predicates with one outline; the first has quotes, a parenthesis and the start of a comment
in its name and its text. -/
def hostile : Predicate :=
  .inValues (.column ⟨⟨1⟩, "a\"b", "c) OR (\""⟩) [.text "x' OR '1' = '1' --", .blob [0, 255]]

/-- The same with a plain name and a plain text. -/
def harmless : Predicate :=
  .inValues (.column ⟨⟨1⟩, "t", "c"⟩) [.text "x", .blob [0, 255]]

theorem quoting_contains_hostile : hostile.isOwn = true ∧ harmless.isOwn = true ∧
    harmless.outline = hostile.outline ∧
      tokens .sqlite (toSql .sqlite hostile) = .ok [.name "a\"b", .sign ".", .name "c) OR (\"",
        .word "IN", .sign "(", .text "x' OR '1' = '1' --", .sign ",", .bytes "00ff", .sign ")"] ∧
      (tokens .sqlite (toSql .sqlite harmless)).map (·.map Token.outline) =
        (tokens .sqlite (toSql .sqlite hostile)).map (·.map Token.outline) := by
  have own : hostile.isOwn = true := rfl
  have own' : harmless.isOwn = true := rfl
  have same : harmless.outline = hostile.outline := rfl
  have contained := quoting_contains own .sqlite
  obtain ⟨written, -, -, -, -, -, -, -, -, -, -, alike⟩ := contained
  exact ⟨own, own', same, written, alike harmless own' same⟩

end Sql

end PooledSql
