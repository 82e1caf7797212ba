import PooledSql.Proofs.Rendering.Naming

/-!
# Symbols

What is written for a predicate, as a sequence of symbols: words, signs, names, and the things that
stand as one unit, each with what it denotes. A reference to a column is one symbol, which keeps the
column's identity; a literal is one symbol, which keeps the value.

The sequence for a tree is given twice: by the tree itself, part by part, and by the condition that
the tree is encoded as. Both agree on trees without text of another hand.

Results:
* `symbols_encode`: the condition that is encoded has the symbols that the tree prescribes.
* `readable_encode`: and its lists and chains are not empty, as SQL demands.
-/

namespace PooledSql

/-! ## Trees without text of another hand -/

mutual

/-- A column or a literal. -/
def Scalar.isOwn : Scalar → Bool
  | .column _ => true
  | .literal _ => true
  | .subquery _ => false
  | .verbatim _ _ => false

/-- A selection of such parts. -/
def Query.isOwn : Query → Bool
  | .select _ value filter => value.isOwn && Predicate.optionIsOwn filter
  | .verbatim _ _ => false

/-- A list of values, or a selection of such parts. -/
def Collective.isOwn : Collective → Bool
  | .values _ _ => true
  | .query _ members => members.isOwn

/-- A comparison of such parts. -/
def Predicate.isOwn : Predicate → Bool
  | .compare _ lhs rhs => lhs.isOwn && rhs.isOwn
  | .collective _ lhs rhs => lhs.isOwn && rhs.isOwn
  | .all _ => false
  | .verbatim _ _ => false

/-- A comparison of such parts, if there is one. -/
def Predicate.optionIsOwn : Option Predicate → Bool
  | none => true
  | some p => p.isOwn

end

namespace Sql

/-- A unit of a text, with what it denotes. -/
inductive Symbol
  | column (c : Column)
  /-- The values of the sub-query that goes by a name. -/
  | member (label : String)
  | literal (v : Value)
  /-- A table in a `FROM`. -/
  | source (t : Table)
  /-- A name that is given. -/
  | name (s : String)
  | word (s : String)
  | sign (s : String)
deriving DecidableEq, Repr

/-- The token that a piece is, if it is one. -/
def Piece.token? : Piece → Option Token
  | .token t => some t
  | .blank => none
  | .verbatim _ => none

/-- The tokens among some pieces. -/
def tokensOf (pieces : List Piece) : List Token := pieces.filterMap Piece.token?

/-- The tokens of a number: its digits, behind a minus if it is negative. -/
def numberTokens (negative : Bool) (digits : List Char) : List Token :=
  let number : Token := .number (String.ofList digits)
  if negative then [.sign "-", number] else [number]

/-- The tokens of a byte string, given its digits. -/
def blobTokens (digits : String) : Dialect → List Token
  | .sqlite => [.bytes digits]
  | .postgres => [.text ("\\x" ++ digits), .sign "::", .word "bytea"]

/-- The tokens that stand for a value in a dialect. A real that is no finite number stands for nothing.
-/
def literalTokens (d : Dialect) : Value → List Token
  | .null => [.word "NULL"]
  | .boolean b => [.word (if b then "TRUE" else "FALSE")]
  | .integer n => numberTokens (decide (n.toInt < 0)) (Nat.toDigits 10 n.toInt.natAbs)
  | .real x =>
    if x.isFinite then
      numberTokens x.isNegative (Number.Layout.literal.digits (Number.Decimal.ofDouble x))
    else [.word "NULL"]
  | .text s => [.text s]
  | .blob bytes => blobTokens (String.ofList (Text.Hex.encode bytes)) d

/-- The tokens of a symbol in a dialect. -/
def Symbol.tokens (d : Dialect) : Symbol → List Token
  | .column c => [.name c.table, .sign ".", .name c.name]
  | .member label => [.name label, .sign ".", .name valueAlias]
  | .literal v => literalTokens d v
  | .source t => .name t.name :: if t.isAliased then [.word "AS", .name t.label] else []
  | .name s => [.name s]
  | .word s => [.word s]
  | .sign s => [.sign s]

/-- The tokens of some symbols. -/
def tokensOfSymbols (d : Dialect) (symbols : List Symbol) : List Token :=
  symbols.flatMap (Symbol.tokens d)

/-! ## How symbols are put together -/

namespace Symbols

open PooledSql.Sql.Symbol

/-- A part in parentheses. -/
def enclosed (part : List Symbol) : List Symbol := sign "(" :: (part ++ [sign ")"])

/-- The sign that stands for a relation. -/
def relationSign : Relation → String
  | .equal => "="
  | .notEqual => "<>"
  | .less => "<"
  | .lessOrEqual => "<="
  | .greater => ">"
  | .greaterOrEqual => ">="

/-- `lhs relation rhs`. -/
def compared (relation : Relation) (lhs rhs : List Symbol) : List Symbol :=
  lhs ++ sign (relationSign relation) :: rhs

/-- A word that is maybe negated. -/
def maybeNot (negated : Bool) (w : String) : List Symbol :=
  if negated then [word "NOT", word w] else [word w]

/-- `lhs [NOT] IN (members)`. -/
def membership (negated : Bool) (lhs members : List Symbol) : List Symbol :=
  lhs ++ maybeNot negated "IN" ++ enclosed members

/-- Literals in a list. -/
def listed (members : List Value) : List Symbol :=
  separated [sign ","] (members.map fun v => [literal v])

/-- The word in front of a sub-query that is compared with across its members. -/
def quantifierWord : Quantifier → String
  | .some => "ANY"
  | .all => "ALL"

/-- The word between comparisons that apply across members one by one. -/
def connectiveWord : Quantifier → String
  | .some => "OR"
  | .all => "AND"

/-- `lhs relation ANY|ALL (members)`. -/
def quantified (relation : Relation) (quantifier : Quantifier) (lhs members : List Symbol) :
    List Symbol :=
  compared relation lhs (word (quantifierWord quantifier) :: enclosed members)

/-- `(part OR part ..)`, or with `AND`. -/
def chained (quantifier : Quantifier) (parts : List (List Symbol)) : List Symbol :=
  enclosed (separated [word (connectiveWord quantifier)] parts)

/-- `[NOT] EXISTS (SELECT 1 FROM (members) AS label WHERE filter)`. -/
def existing (negated : Bool) (members : List Symbol) (label : String) (filter : List Symbol) :
    List Symbol :=
  maybeNot negated "EXISTS" ++
    enclosed (word "SELECT" :: literal (.integer 1) :: word "FROM" ::
      (enclosed members ++ word "AS" :: name label :: word "WHERE" :: filter))

/-- `(part) IS NOT TRUE`. -/
def notTrue (part : List Symbol) : List Symbol :=
  enclosed part ++ [word "IS", word "NOT", word "TRUE"]

/-- `SELECT value AS label FROM source [WHERE filter]`. -/
def selection (value : List Symbol) (label : String) (table : Table)
    (filter : Option (List Symbol)) : List Symbol :=
  word "SELECT" :: (value ++ word "AS" :: name label :: word "FROM" :: source table ::
    filter.elim [] (word "WHERE" :: ·))

end Symbols

open Symbols

/-! ## The symbols of a tree -/

/-- The symbols of a comparison with the members of a list. -/
def valuesSymbols (relation : Relation) (quantifier : Quantifier) (lhs : List Symbol)
    (members : List Value) : List Symbol :=
  if members.isEmpty then
    compared .equal [.literal (.integer 1)]
      [.literal (.integer (match quantifier with | .some => 0 | .all => 1))]
  else
    match membership? relation quantifier with
    | some negated => membership negated lhs (listed members)
    | none => chained quantifier (members.map fun v => compared relation lhs [.literal v])

/-- The symbols of a comparison with the members of a sub-query. Where the dialect cannot say it
directly the sub-query takes the next name. -/
def querySymbols (d : Dialect) (relation : Relation) (quantifier : Quantifier) (lhs : List Symbol)
    (members : Naming (List Symbol)) : Naming (List Symbol) :=
  match membership? relation quantifier with
  | some negated => do return membership negated lhs (← members)
  | none =>
    if d.hasQuantifiedSubquery then do return quantified relation quantifier lhs (← members)
    else do
      let label ← freshAlias
      let members ← members
      let comparison := compared relation lhs [.member label]
      return match quantifier with
        | .some => existing false members label comparison
        | .all => existing true members label (notTrue comparison)

/-- The symbols of a scalar. -/
def scalarSymbols : Scalar → List Symbol
  | .column c => [.column c]
  | .literal v => [.literal v]
  | .subquery _ => []
  | .verbatim _ _ => []

mutual

/-- The symbols of a sub-query whose values go by `label`. -/
def Query.symbols (d : Dialect) (label : String) : Query → Naming (List Symbol)
  | .select source value filter => do
    return selection (scalarSymbols value) label source (← Predicate.optionSymbols d filter)
  | .verbatim _ _ => pure []

/-- The symbols of a comparison with a collection, given those of the left operand. -/
def Collective.symbols (d : Dialect) (relation : Relation) (lhs : List Symbol) :
    Collective → Naming (List Symbol)
  | .values quantifier members => pure (valuesSymbols relation quantifier lhs members)
  | .query quantifier members =>
    querySymbols d relation quantifier lhs (Query.symbols d valueAlias members)

/-- The symbols of a predicate. -/
def Predicate.symbols (d : Dialect) : Predicate → Naming (List Symbol)
  | .compare relation lhs rhs => pure (compared relation (scalarSymbols lhs) (scalarSymbols rhs))
  | .collective relation lhs rhs => Collective.symbols d relation (scalarSymbols lhs) rhs
  | .all _ => pure []
  | .verbatim _ _ => pure []

/-- The symbols of a filter, if there is one. -/
def Predicate.optionSymbols (d : Dialect) : Option Predicate → Naming (Option (List Symbol))
  | none => pure none
  | some p => do return some (← Predicate.symbols d p)

end

/-- The symbols of a predicate in a dialect, with names from `q1` on. -/
def symbols (d : Dialect) (p : Predicate) : List Symbol := (Predicate.symbols d p |>.run 0).1

/-! ## The symbols of a condition -/

mutual

/-- The symbols of an operand. -/
def Operand.symbols : Operand → List Symbol
  | .column c => [.column c]
  | .member label => [.member label]
  | .literal v => [.literal v]
  | .subquery q => enclosed q.symbols
  | .verbatim _ => []

/-- The symbols of a condition. -/
def Condition.symbols : Condition → List Symbol
  | .compare relation lhs rhs => compared relation lhs.symbols rhs.symbols
  | .inValues negated lhs members => membership negated lhs.symbols (listed members)
  | .inQuery negated lhs members => membership negated lhs.symbols members.symbols
  | .quantified relation quantifier lhs members =>
    quantified relation quantifier lhs.symbols members.symbols
  | .existing negated members label filter => existing negated members.symbols label filter.symbols
  | .notTrue part => notTrue part.symbols
  | .any parts => chained .some (Condition.listSymbols parts)
  | .all parts => chained .all (Condition.listSymbols parts)
  | .verbatim _ => []

/-- The symbols of each of some conditions. -/
def Condition.listSymbols : List Condition → List (List Symbol)
  | [] => []
  | c :: rest => c.symbols :: Condition.listSymbols rest

/-- The symbols of a filter, if there is one. -/
def Condition.optionSymbols : Option Condition → Option (List Symbol)
  | none => none
  | some c => some c.symbols

/-- The symbols of a sub-query. -/
def Subquery.symbols : Subquery → List Symbol
  | .select value label source filter =>
    selection value.symbols label source (Condition.optionSymbols filter)
  | .verbatim _ => []

end

theorem listSymbols_eq_map (parts : List Condition) :
    Condition.listSymbols parts = parts.map Condition.symbols := by
  induction parts with
  | nil => rfl
  | cons c rest ih => rw [Condition.listSymbols, ih, List.map_cons]

/-! ## What can be read -/

/-- An operand that can be read: no sub-query, and no text of another hand. -/
def Operand.isReadable : Operand → Bool
  | .column _ => true
  | .member _ => true
  | .literal _ => true
  | .subquery _ => false
  | .verbatim _ => false

mutual

/-- A condition that can be read: lists and chains have members, as SQL demands. -/
def Condition.isReadable : Condition → Bool
  | .compare _ lhs rhs => lhs.isReadable && rhs.isReadable
  | .inValues _ lhs members => lhs.isReadable && !members.isEmpty
  | .inQuery _ lhs members => lhs.isReadable && members.isReadable
  | .quantified _ _ lhs members => lhs.isReadable && members.isReadable
  | .existing _ members _ filter => members.isReadable && filter.isReadable
  | .notTrue part => part.isReadable
  | .any parts => !parts.isEmpty && Condition.listIsReadable parts
  | .all parts => !parts.isEmpty && Condition.listIsReadable parts
  | .verbatim _ => false

/-- Conditions that can be read. -/
def Condition.listIsReadable : List Condition → Bool
  | [] => true
  | c :: rest => c.isReadable && Condition.listIsReadable rest

/-- A filter that can be read, if there is one. -/
def Condition.optionIsReadable : Option Condition → Bool
  | none => true
  | some c => c.isReadable

/-- A sub-query that can be read. -/
def Subquery.isReadable : Subquery → Bool
  | .select value _ _ filter => value.isReadable && Condition.optionIsReadable filter
  | .verbatim _ => false

end

theorem listIsReadable_iff {parts : List Condition} :
    Condition.listIsReadable parts = true ↔ ∀ c ∈ parts, c.isReadable = true := by
  induction parts with
  | nil => simp [Condition.listIsReadable]
  | cons c rest ih => simp [Condition.listIsReadable, ih]

/-! ## What is encoded has the symbols of the tree -/

/-- A comparison with the members of a list, given the left operand. -/
def valuesCondition (relation : Relation) (quantifier : Quantifier) (lhs : Operand)
    (members : List Value) : Condition :=
  if members.isEmpty then vacuous quantifier
  else
    match membership? relation quantifier with
    | some negated => .inValues negated lhs members
    | none => chain quantifier (members.map fun v => .compare relation lhs (.literal v))

theorem encodeValues_pure (relation : Relation) (quantifier : Quantifier) (lhs : Operand)
    (members : List Value) :
    encodeValues relation quantifier (pure lhs) members =
      pure (valuesCondition relation quantifier lhs members) := by
  unfold encodeValues valuesCondition
  split
  · rfl
  · cases membership? relation quantifier with
    | some negated => rfl
    | none => simp only [pure_bind, List.mapM_pure]

theorem symbols_valuesCondition (relation : Relation) (quantifier : Quantifier) (lhs : Operand)
    (members : List Value) :
    (valuesCondition relation quantifier lhs members).symbols =
      valuesSymbols relation quantifier lhs.symbols members := by
  unfold valuesCondition valuesSymbols
  split
  · cases quantifier <;> rfl
  · cases membership? relation quantifier with
    | some negated => rfl
    | none =>
      cases quantifier <;>
        simp [chain, Condition.symbols, listSymbols_eq_map, Function.comp_def, Operand.symbols]

theorem readable_valuesCondition {relation : Relation} {quantifier : Quantifier} {lhs : Operand}
    (members : List Value) (hl : lhs.isReadable = true) :
    (valuesCondition relation quantifier lhs members).isReadable = true := by
  unfold valuesCondition
  split
  · rfl
  · split
    · simp_all [Condition.isReadable]
    · cases quantifier <;>
        simp_all [chain, Condition.isReadable, listIsReadable_iff, Operand.isReadable]

theorem symbols_encodeQuery (d : Dialect) (relation : Relation) (quantifier : Quantifier)
    (lhs : Operand) (members : Naming Subquery) :
    Condition.symbols <$> encodeQuery d relation quantifier (pure lhs) members =
      querySymbols d relation quantifier lhs.symbols (Subquery.symbols <$> members) := by
  unfold encodeQuery querySymbols
  cases membership? relation quantifier with
  | some negated => simp only [pure_bind, map_bind, map_pure, bind_map_left, Condition.symbols]
  | none =>
    dsimp only
    split
    · simp only [pure_bind, map_bind, map_pure, bind_map_left, Condition.symbols]
    · cases quantifier <;>
        simp only [pure_bind, map_bind, map_pure, bind_map_left, existence, Condition.symbols,
          Operand.symbols]

/-- What a scalar of the tree is encoded as. -/
def Scalar.operand : Scalar → Operand
  | .column c => .column c
  | .literal v => .literal v
  | .subquery _ => .verbatim ""
  | .verbatim text _ => .verbatim text

theorem encode_scalar {x : Scalar} (d : Dialect) (own : x.isOwn = true) :
    Scalar.encode d x = pure (Scalar.operand x) := by
  cases x with
  | column | literal => rfl
  | subquery | verbatim => simp [Scalar.isOwn] at own

theorem symbols_operand (x : Scalar) : (Scalar.operand x).symbols = scalarSymbols x := by
  cases x <;> rfl

theorem readable_operand {x : Scalar} (own : x.isOwn = true) :
    (Scalar.operand x).isReadable = true := by
  cases x with
  | column | literal => rfl
  | subquery | verbatim => simp [Scalar.isOwn] at own

mutual

theorem symbols_encode_query (d : Dialect) (label : String) : (q : Query) → q.isOwn = true →
    Subquery.symbols <$> Query.encode d label q = Query.symbols d label q
  | .select source value filter, own => by
    simp only [Query.isOwn, Bool.and_eq_true] at own
    rw [Query.encode, Query.symbols, ← symbols_encode_option d filter own.2,
      encode_scalar d own.1]
    simp only [pure_bind, map_bind, map_pure, bind_map_left, Subquery.symbols, symbols_operand]
  | .verbatim _ _, own => by simp [Query.isOwn] at own

/-- What is written for a predicate has the symbols that are stated for it. -/
theorem symbols_encode_predicate (d : Dialect) : (p : Predicate) → p.isOwn = true →
    Condition.symbols <$> Predicate.encode d p = Predicate.symbols d p
  | .compare relation lhs rhs, own => by
    simp only [Predicate.isOwn, Bool.and_eq_true] at own
    rw [Predicate.encode, Predicate.symbols, encode_scalar d own.1, encode_scalar d own.2]
    simp only [pure_bind, map_pure, Condition.symbols, symbols_operand]
  | .collective relation lhs (.values quantifier members), own => by
    simp only [Predicate.isOwn, Bool.and_eq_true] at own
    rw [Predicate.encode, Predicate.symbols, Collective.encode, Collective.symbols,
      encode_scalar d own.1, encodeValues_pure, map_pure, symbols_valuesCondition,
      symbols_operand]
  | .collective relation lhs (.query quantifier members), own => by
    simp only [Predicate.isOwn, Collective.isOwn, Bool.and_eq_true] at own
    rw [Predicate.encode, Predicate.symbols, Collective.encode, Collective.symbols,
      encode_scalar d own.1, symbols_encodeQuery, symbols_encode_query d valueAlias members own.2,
      symbols_operand]
  | .all _, own => by simp [Predicate.isOwn] at own
  | .verbatim _ _, own => by simp [Predicate.isOwn] at own

theorem symbols_encode_option (d : Dialect) : (filter : Option Predicate) →
    Predicate.optionIsOwn filter = true →
    Condition.optionSymbols <$> Predicate.encodeOption d filter = Predicate.optionSymbols d filter
  | none, _ => rfl
  | some p, own => by
    rw [Predicate.encodeOption, Predicate.optionSymbols, ← symbols_encode_predicate d p own]
    simp only [map_bind, map_pure, bind_map_left, Condition.optionSymbols]

end

/-- The condition that a tree is encoded as has the symbols that the tree prescribes. -/
theorem symbols_encode {p : Predicate} (d : Dialect) (own : p.isOwn = true) :
    (condition d p).symbols = symbols d p :=
  congrArg (fun x : Naming (List Symbol) => (x.run 0).1) (symbols_encode_predicate d p own)

/-! ## What is encoded can be read -/

theorem readable_queryForm {d : Dialect} {relation : Relation} {quantifier : Quantifier}
    {c : Condition}
    (form : QueryForm d relation quantifier (Operand.isReadable · = true)
      (Subquery.isReadable · = true) c) : c.isReadable = true := by
  cases form with
  | membership _ left right | quantified _ left right =>
    rw [Condition.isReadable, left, right]
    rfl
  | @existence label _ _ _ left right =>
    have member : (Operand.member label).isReadable = true := rfl
    cases quantifier <;>
      simp only [existence, Condition.isReadable, left, right, member, Bool.and_true]

mutual

theorem readable_query (d : Dialect) (label : String) : (q : Query) → q.isOwn = true →
    Always (Query.encode d label q) (Subquery.isReadable · = true)
  | .select source value filter, own => by
    simp only [Query.isOwn, Bool.and_eq_true] at own
    rw [Query.encode, encode_scalar d own.1, pure_bind]
    refine always_bind (readable_option d filter own.2) fun c hc => always_pure ?_
    rw [Subquery.isReadable, readable_operand own.1, hc]
    rfl
  | .verbatim _ _, own => by simp [Query.isOwn] at own

/-- What is written for a predicate of such parts is readable. -/
theorem readable_predicate (d : Dialect) : (p : Predicate) → p.isOwn = true →
    Always (Predicate.encode d p) (Condition.isReadable · = true)
  | .compare relation lhs rhs, own => by
    simp only [Predicate.isOwn, Bool.and_eq_true] at own
    rw [Predicate.encode, encode_scalar d own.1, encode_scalar d own.2]
    refine always_pure ?_
    rw [Condition.isReadable, readable_operand own.1, readable_operand own.2]
    rfl
  | .collective relation lhs (.values quantifier members), own => by
    simp only [Predicate.isOwn, Bool.and_eq_true] at own
    rw [Predicate.encode, Collective.encode, encode_scalar d own.1, encodeValues_pure]
    exact always_pure (readable_valuesCondition members (readable_operand own.1))
  | .collective relation lhs (.query quantifier members), own => by
    simp only [Predicate.isOwn, Collective.isOwn, Bool.and_eq_true] at own
    rw [Predicate.encode, Collective.encode, encode_scalar d own.1]
    exact always_mono (always_encodeQuery d (always_pure (readable_operand own.1))
      (readable_query d valueAlias members own.2)) fun c form => readable_queryForm form
  | .all _, own => by simp [Predicate.isOwn] at own
  | .verbatim _ _, own => by simp [Predicate.isOwn] at own

theorem readable_option (d : Dialect) : (filter : Option Predicate) →
    Predicate.optionIsOwn filter = true →
    Always (Predicate.encodeOption d filter) (Condition.optionIsReadable · = true)
  | none, _ => always_pure rfl
  | some p, own => by
    rw [Predicate.encodeOption]
    exact always_bind (readable_predicate d p own) fun c hc => always_pure hc

end

/-- The condition that a tree is encoded as can be read. -/
theorem readable_encode {p : Predicate} (d : Dialect) (own : p.isOwn = true) :
    (condition d p).isReadable = true :=
  readable_predicate d p own 0

end Sql

end PooledSql
