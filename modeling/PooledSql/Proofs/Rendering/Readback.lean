import PooledSql.Proofs.Rendering.Grammar
import PooledSql.Proofs.Rendering.Literals

/-!
# Reading predicates back

A reader that goes from the tokens of a text to the predicate that it was written for. It knows the
forms that comparisons take in either dialect, with the lists and the sub-queries in them.

Some predicates are written alike, and for these it has one canonical form. The columns that a table
provides are not written, nor are the identities of columns. Reals that are not finite are written as
`NULL`. A comparison over an empty list is written as a comparison of two integers. Over a list with
one member, a comparison by order is written alike for some and for all members.

Results:
* `readTree_scalar`: what starts with an operand is read as a comparison with that operand.
* `reads_predicate`: the tokens of a predicate are read as its canonical form.
-/

namespace PooledSql

/-! ## Canonical forms -/

/-- The scalar as far as it is written. -/
def Scalar.canon : Scalar → Scalar
  | .column c => .column ⟨⟨0⟩, c.table, c.name⟩
  | .literal v => .literal v.stated
  | .subquery q => .subquery q
  | .verbatim text uses => .verbatim text uses

/-- The table as far as it is written. -/
def Table.canon (t : Table) : Table := ⟨t.name, t.label, []⟩

/-- The quantifier of a comparison with the one member of a list, which does not matter if the
relation is one of order. -/
def Quantifier.ofOne (relation : Relation) (quantifier : Quantifier) : Quantifier :=
  match relation with
  | .equal | .notEqual => quantifier
  | .less | .lessOrEqual | .greater | .greaterOrEqual => .some

/-- A comparison with the members of a list as far as it is written. -/
def Predicate.overValues (relation : Relation) (lhs : Scalar) (quantifier : Quantifier) :
    List Value → Predicate
  | [] =>
    .compare .equal (.literal (.integer 1))
      (.literal (.integer (match quantifier with | .some => 0 | .all => 1)))
  | [v] => .collective relation lhs (.values (quantifier.ofOne relation) [v])
  | members => .collective relation lhs (.values quantifier members)

section OverValues

variable (relation : Relation) (lhs : Scalar) (quantifier : Quantifier)

theorem Predicate.overValues_nil : Predicate.overValues relation lhs quantifier [] =
    .compare .equal (.literal (.integer 1))
      (.literal (.integer (match quantifier with | .some => 0 | .all => 1))) := rfl

theorem Predicate.overValues_one (v : Value) : Predicate.overValues relation lhs quantifier [v] =
    .collective relation lhs (.values (quantifier.ofOne relation) [v]) := rfl

theorem Predicate.overValues_more (v next : Value) (more : List Value) :
    Predicate.overValues relation lhs quantifier (v :: next :: more) =
      .collective relation lhs (.values quantifier (v :: next :: more)) := rfl

end OverValues

mutual

/-- The query as far as it is written. -/
def Query.canon : Query → Query
  | .select source value filter =>
    .select source.canon value.canon (Predicate.optionCanon filter)
  | .verbatim text uses => .verbatim text uses

/-- The predicate as far as it is written. -/
def Predicate.canon : Predicate → Predicate
  | .compare relation lhs rhs => .compare relation lhs.canon rhs.canon
  | .collective relation lhs (.values quantifier members) =>
    .overValues relation lhs.canon quantifier (members.map Value.stated)
  | .collective relation lhs (.query quantifier members) =>
    .collective relation lhs.canon (.query quantifier members.canon)
  | .all parts => .all parts
  | .verbatim text uses => .verbatim text uses

/-- The filter as far as it is written, if there is one. -/
def Predicate.optionCanon : Option Predicate → Option Predicate
  | none => none
  | some p => some p.canon

end

mutual

/-- How deep sub-queries are nested in a query, itself included. -/
def Query.depth : Query → Nat
  | .select _ _ filter => Predicate.optionDepth filter + 1
  | .verbatim _ _ => 1

/-- How deep sub-queries are nested in a predicate. -/
def Predicate.depth : Predicate → Nat
  | .compare _ _ _ => 0
  | .collective _ _ (.values _ _) => 0
  | .collective _ _ (.query _ members) => members.depth
  | .all _ => 0
  | .verbatim _ _ => 0

/-- How deep sub-queries are nested in a filter, if there is one. -/
def Predicate.optionDepth : Option Predicate → Nat
  | none => 0
  | some p => p.depth

end

namespace Sql.Readback

/-! ## The reader -/

/-- Reads the tokens that have to come next. -/
def skip : List Token → List Token → Option (List Token)
  | [], s => some s
  | _ :: _, [] => none
  | t :: more, x :: s => if x = t then skip more s else none

/-- Reads a column by its names, or a literal. -/
def readScalar : TokenReader Scalar := fun s =>
  match readValue s with
  | some (v, s) => some (.literal v, s)
  | none =>
    match s with
    | .name table :: .sign "." :: .name column :: s => some (.column ⟨⟨0⟩, table, column⟩, s)
    | _ => none

/-- Reads a relation. -/
def readRelation : TokenReader Relation
  | .sign s :: rest => (relation? s).map fun relation => (relation, rest)
  | _ => none

/-- Reads a table with the name that it goes by. -/
def readTable : TokenReader Table
  | .name name :: .word "AS" :: .name label :: s => some (⟨name, label, []⟩, s)
  | .name name :: s => some (⟨name, name, []⟩, s)
  | _ => none

/-- Reads a name, whatever it is. -/
def skipName : List Token → Option (List Token)
  | .name _ :: s => some s
  | _ => none

/-- Reads a comparison of a scalar with a literal. -/
def readRow : TokenReader (Scalar × Relation × Value) := fun s => do
  let (lhs, s) ← readScalar s
  let (relation, s) ← readRelation s
  let (v, s) ← readValue s
  some ((lhs, relation, v), s)

/-- Reads the other comparisons of a chain, which ends with a parenthesis. -/
def readRows (quantifier : Quantifier) (lhs : Scalar) (relation : Relation) (v : Value) :
    TokenReader Predicate := fun s => do
  let (rows, s) ← readMore (.word (Symbols.connectiveWord quantifier)) readRow s.length s
  let s ← skip [.sign ")"] s
  some (.collective relation lhs (.values quantifier (v :: rows.map fun row => row.2.2)), s)

/-- Reads a chain of comparisons with literals after its parenthesis. -/
def readChain : TokenReader Predicate := fun s => do
  let ((lhs, relation, v), s) ← readRow s
  match s with
  | .word "OR" :: _ => readRows .some lhs relation v s
  | .word "AND" :: _ => readRows .all lhs relation v s
  | .sign ")" :: s =>
    -- equality with some member is written as a membership
    let quantifier := if relation = .equal then .all else .some
    some (.collective relation lhs (.values quantifier [v]), s)
  | _ => none

section Levels

variable (predicate : TokenReader Predicate)

/-- Reads `SELECT value AS label FROM source [WHERE filter]`. -/
def readQuery : TokenReader Query := fun s => do
  let (value, s) ← readScalar (← skip [.word "SELECT"] s)
  let s ← skipName (← skip [.word "AS"] s)
  let (source, s) ← readTable (← skip [.word "FROM"] s)
  match s with
  | .word "WHERE" :: s => do
    let (filter, s) ← predicate s
    some (.select source value (some filter), s)
  | s => some (.select source value none, s)

/-- What is in front of the comparison in a condition on existence, and what is behind it. -/
def brackets : Quantifier → List Token × List Token
  | .some => ([], [.sign ")"])
  | .all => ([.sign "("], [.sign ")", .word "IS", .word "NOT", .word "TRUE", .sign ")"])

/-- Reads a condition on existence after `EXISTS`. -/
def readExistence (quantifier : Quantifier) : TokenReader Predicate := fun s => do
  let s ← skip [.sign "(", .word "SELECT", .number "1", .word "FROM", .sign "("] s
  let (members, s) ← readQuery predicate s
  let s ← skipName (← skip [.sign ")", .word "AS"] s)
  let s ← skip (.word "WHERE" :: (brackets quantifier).1) s
  let (lhs, s) ← readScalar s
  let (relation, s) ← readRelation s
  let s ← skipName (← skip [.sign "."] (← skipName s))
  let s ← skip (brackets quantifier).2 s
  some (.collective relation lhs (.query quantifier members), s)

/-- Reads what comes after `IN`. -/
def readMembers (relation : Relation) (quantifier : Quantifier) (lhs : Scalar) :
    TokenReader Predicate := fun s => do
  let s ← skip [.sign "("] s
  if s.head? = some (.word "SELECT") then do
    let (members, s) ← readQuery predicate s
    some (.collective relation lhs (.query quantifier members), ← skip [.sign ")"] s)
  else do
    let (members, s) ← readValues s
    some (.collective relation lhs (.values quantifier members), ← skip [.sign ")"] s)

/-- Reads what comes after `ANY` or `ALL`. -/
def readQuantified (relation : Relation) (quantifier : Quantifier) (lhs : Scalar) :
    TokenReader Predicate := fun s => do
  let (members, s) ← readQuery predicate (← skip [.sign "("] s)
  some (.collective relation lhs (.query quantifier members), ← skip [.sign ")"] s)

/-- Reads what comes after the left operand. -/
def readTail (lhs : Scalar) : TokenReader Predicate
  | .word "IN" :: s => readMembers predicate .equal .some lhs s
  | .word "NOT" :: .word "IN" :: s => readMembers predicate .notEqual .all lhs s
  | .sign sign :: s => do
    let relation ← relation? sign
    match s with
    | .word "ANY" :: s => readQuantified predicate relation .some lhs s
    | .word "ALL" :: s => readQuantified predicate relation .all lhs s
    | s => do
      let (rhs, s) ← readScalar s
      some (.compare relation lhs rhs, s)
  | _ => none

/-- Reads a predicate, given how to read those in its sub-queries. -/
def readTree : TokenReader Predicate
  | .sign "(" :: s => readChain s
  | .word "EXISTS" :: s => readExistence predicate .some s
  | .word "NOT" :: s => do readExistence predicate .all (← skip [.word "EXISTS"] s)
  | s => do
    let (lhs, s) ← readScalar s
    readTail predicate lhs s

end Levels

/-- Reads a predicate with sub-queries less than `n` deep. -/
def readPredicate : Nat → TokenReader Predicate
  | 0 => fun _ => none
  | n + 1 => readTree (readPredicate n)

/-! ## Reading operands -/

section Operands

variable {d : Dialect}

@[simp]
theorem skip_nil (s : List Token) : skip [] s = some s := by
  cases s <;> rfl

@[simp]
theorem skip_cons (t : Token) (more s : List Token) : skip (t :: more) (t :: s) = skip more s := by
  simp [skip]

@[simp]
theorem skipName_cons (name : String) (s : List Token) : skipName (.name name :: s) = some s := rfl

@[simp]
theorem readRelation_sign (relation : Relation) (s : List Token) :
    readRelation (.sign (Symbols.relationSign relation) :: s) = some (relation, s) := by
  simp [readRelation, relation?_sign]

theorem tokens_literal (v : Value) :
    tokensOfSymbols d [.literal v] = (Symbol.literal v).tokens d :=
  List.append_nil _

theorem tokens_enclosed (part : List Symbol) (rest : List Token) :
    tokensOfSymbols d (Symbols.enclosed part) ++ rest =
      .sign "(" :: (tokensOfSymbols d part ++ .sign ")" :: rest) := by
  simp [Symbols.enclosed, Symbol.tokens]

theorem tokens_compared (relation : Relation) (lhs rhs : List Symbol) (rest : List Token) :
    tokensOfSymbols d (Symbols.compared relation lhs rhs) ++ rest =
      tokensOfSymbols d lhs ++ (.sign (Symbols.relationSign relation) :: (tokensOfSymbols d rhs ++ rest)) := by
  simp [Symbols.compared, Symbol.tokens]

/-- Something that does not go on with the sign of a type follows. -/
def Follows (s : List Token) : Prop := s.head? ≠ some (.sign "::")

theorem readScalar_symbols {x : Scalar} (own : x.isOwn = true) {rest : List Token}
    (follows : Follows rest) :
    readScalar (tokensOfSymbols d (scalarSymbols x) ++ rest) = some (x.canon, rest) := by
  cases x with
  | column c => rfl
  | literal v =>
    unfold readScalar
    rw [scalarSymbols, tokens_literal, readValue_literal d v follows]
    rfl
  | subquery | verbatim => simp [Scalar.isOwn] at own

/-- A token that an operand may start with. -/
def startsScalar : Token → Bool
  | .name _ => true
  | .number _ => true
  | .text _ => true
  | .bytes _ => true
  | .sign s => s == "-"
  | .word w => w == "NULL" || w == "TRUE" || w == "FALSE"

theorem startsScalar_literal (v : Value) :
    ∃ t more, (Symbol.literal v).tokens d = t :: more ∧ startsScalar t = true := by
  have number (negative : Bool) (digits : List Char) :
      ∃ t more, numberTokens negative digits = t :: more ∧ startsScalar t = true := by
    cases negative <;> exact ⟨_, _, rfl, rfl⟩
  rw [Symbol.tokens]
  cases v with
  | null => exact ⟨_, _, rfl, rfl⟩
  | boolean b => cases b <;> exact ⟨_, _, rfl, rfl⟩
  | integer n => exact number _ _
  | real x =>
    rw [literalTokens]
    split
    · exact number _ _
    · exact ⟨_, _, rfl, rfl⟩
  | text s => exact ⟨_, _, rfl, rfl⟩
  | blob bytes => cases d <;> exact ⟨_, _, rfl, rfl⟩

theorem startsScalar_symbols {x : Scalar} (own : x.isOwn = true) :
    ∃ t more, tokensOfSymbols d (scalarSymbols x) = t :: more ∧ startsScalar t = true := by
  cases x with
  | column c => exact ⟨_, _, rfl, rfl⟩
  | literal v =>
    rw [scalarSymbols, tokens_literal]
    exact startsScalar_literal v
  | subquery | verbatim => simp [Scalar.isOwn] at own

/-- What starts with an operand is read as a comparison with that operand. -/
theorem readTree_scalar (predicate : TokenReader Predicate) {x : Scalar} (own : x.isOwn = true)
    {rest : List Token} (follows : Follows rest) :
    readTree predicate (tokensOfSymbols d (scalarSymbols x) ++ rest) =
      readTail predicate x.canon rest := by
  have read := readScalar_symbols (d := d) own follows
  obtain ⟨t, more, tokens, starts⟩ := startsScalar_symbols (d := d) own
  rw [tokens] at read ⊢
  rw [List.cons_append] at read ⊢
  -- no other form starts like that
  unfold readTree
  split
  · rename_i same
    cases same
    exact absurd starts (by decide)
  · rename_i same
    cases same
    exact absurd starts (by decide)
  · rename_i same
    cases same
    exact absurd starts (by decide)
  · simp only [read, Option.bind_eq_bind, Option.bind_some]

theorem follows_sign {s : String} (h : s ≠ "::") (rest : List Token) : Follows (.sign s :: rest) := by
  simpa [Follows] using h

theorem follows_word (w : String) (rest : List Token) : Follows (.word w :: rest) := by
  simp [Follows]

theorem follows_relation (relation : Relation) (rest : List Token) :
    Follows (.sign (Symbols.relationSign relation) :: rest) :=
  follows_sign (by cases relation <;> decide) rest

end Operands

/-! ## Reading comparisons -/

/-- A predicate ends here: the tokens end, or a parenthesis closes. -/
def Ends (s : List Token) : Prop := ∀ t, s.head? = some t → t = .sign ")"

theorem Ends.follows {s : List Token} (h : Ends s) : Follows s := by
  intro sign
  exact absurd (h _ sign) (by decide)

theorem ends_close (s : List Token) : Ends (.sign ")" :: s) := by
  rintro t ⟨⟩
  rfl

section Comparisons

variable {d : Dialect} (predicate : TokenReader Predicate)

/-- A comparison is read back as a tree. -/
theorem readTree_compared {relation : Relation} {x y : Scalar} (hx : x.isOwn = true)
    (hy : y.isOwn = true) {rest : List Token} (ends : Ends rest) :
    readTree predicate
        (tokensOfSymbols d (Symbols.compared relation (scalarSymbols x) (scalarSymbols y)) ++ rest) =
      some (.compare relation x.canon y.canon, rest) := by
  have right := readScalar_symbols (d := d) hy ends.follows
  obtain ⟨t, more, tokens, starts⟩ := startsScalar_symbols (d := d) hy
  rw [tokens_compared, readTree_scalar predicate hx (follows_relation _ _)]
  rw [tokens, List.cons_append] at right ⊢
  unfold readTail
  simp only [relation?_sign, Option.bind_eq_bind, Option.bind_some]
  split
  · rename_i same
    cases same
    exact absurd starts (by decide)
  · rename_i same
    cases same
    exact absurd starts (by decide)
  · simp only [right, Option.bind_some]

theorem readRow_compared {relation : Relation} {x : Scalar} (hx : x.isOwn = true) (v : Value)
    {rest : List Token} (follows : Follows rest) :
    readRow (tokensOfSymbols d (Symbols.compared relation (scalarSymbols x) [.literal v]) ++ rest) =
      some ((x.canon, relation, v.stated), rest) := by
  rw [tokens_compared, tokens_literal, readRow, readScalar_symbols hx (follows_relation _ _)]
  simp only [Option.bind_eq_bind, Option.bind_some, readRelation_sign,
    readValue_literal d v follows]

end Comparisons

/-! ## Reading lists -/

section Lists

variable {d : Dialect} (predicate : TokenReader Predicate)

theorem readMembers_listed (relation : Relation) (quantifier : Quantifier) (lhs : Scalar)
    {members : List Value} (some' : members ≠ []) (rest : List Token) :
    readMembers predicate relation quantifier lhs
        (tokensOfSymbols d (Symbols.enclosed (Symbols.listed members)) ++ rest) =
      some (.collective relation lhs (.values quantifier (members.map Value.stated)), rest) := by
  have read := readValues_listed d some' rest
  have list : (tokensOfSymbols d (Symbols.listed members) ++ .sign ")" :: rest).head? ≠
      some (.word "SELECT") := by
    obtain ⟨v, more, rfl⟩ := List.exists_cons_of_ne_nil some'
    obtain ⟨t, others, tokens, starts⟩ := startsScalar_literal (d := d) v
    rw [Symbols.listed, tokens_separated rfl, tokens_literal, tokens]
    rintro ⟨⟩
    exact absurd starts (by decide)
  rw [tokens_enclosed, readMembers]
  simp only [skip_cons, skip_nil, Option.bind_eq_bind, Option.bind_some, if_neg list, read]

/-- The words in front of the members are read as the comparison that they stand for. -/
theorem readTail_membership {relation : Relation} {quantifier : Quantifier} {negated : Bool}
    (form : membership? relation quantifier = some negated) (lhs : Scalar) (s : List Token) :
    readTail predicate lhs (tokensOfSymbols d (Symbols.maybeNot negated "IN") ++ s) =
      readMembers predicate relation quantifier lhs s := by
  cases relation <;> cases quantifier <;> cases form <;> rfl

theorem follows_maybeNot (negated : Bool) (w : String) (s : List Token) :
    Follows (tokensOfSymbols d (Symbols.maybeNot negated w) ++ s) := by
  cases negated <;> exact follows_word _ _

/-- A membership is read back as the comparison it is the short form of. -/
theorem readTree_membership {relation : Relation} {quantifier : Quantifier} {negated : Bool}
    (form : membership? relation quantifier = some negated) {x : Scalar} (hx : x.isOwn = true)
    (members : List Symbol) (rest : List Token) :
    readTree predicate
        (tokensOfSymbols d (Symbols.membership negated (scalarSymbols x) members) ++ rest) =
      readMembers predicate relation quantifier x.canon
        (tokensOfSymbols d (Symbols.enclosed members) ++ rest) := by
  have written : tokensOfSymbols d (Symbols.membership negated (scalarSymbols x) members) ++ rest =
      tokensOfSymbols d (scalarSymbols x) ++ (tokensOfSymbols d (Symbols.maybeNot negated "IN") ++
        (tokensOfSymbols d (Symbols.enclosed members) ++ rest)) := by
    simp [Symbols.membership]
  rw [written, readTree_scalar predicate hx (follows_maybeNot _ _ _),
    readTail_membership predicate form]

/-- The tokens of the comparisons of a chain behind the first one. -/
def rowTokens (d : Dialect) (relation : Relation) (quantifier : Quantifier) (x : Scalar)
    (more : List Value) : List Token :=
  more.flatMap fun v => .word (Symbols.connectiveWord quantifier) ::
    tokensOfSymbols d (Symbols.compared relation (scalarSymbols x) [.literal v])

/-- The comparisons of a chain behind the first one are read one by one. -/
theorem readRows_rowTokens {relation : Relation} (quantifier : Quantifier) {x : Scalar}
    (hx : x.isOwn = true) (v : Value) (more : List Value) (rest : List Token) :
    readRows quantifier x.canon relation v.stated
        (rowTokens d relation quantifier x more ++ .sign ")" :: rest) =
      some (.collective relation x.canon (.values quantifier ((v :: more).map Value.stated)),
        rest) := by
  have read : readMore (.word (Symbols.connectiveWord quantifier)) readRow
      (rowTokens d relation quantifier x more ++ .sign ")" :: rest).length
      (rowTokens d relation quantifier x more ++ .sign ")" :: rest) =
        some (more.map fun v => (x.canon, relation, v.stated), .sign ")" :: rest) :=
    readMore_flatMap Follows (fun v _ s follows => readRow_compared hx v follows)
      (fun s => follows_word _ s) (ends_close rest).follows (by simp) (Nat.le_refl _)
  rw [readRows, read]
  simp [Function.comp_def]

/-- A chain is read as the comparison with its members; one of a single member, by its relation. -/
theorem readTree_chained {relation : Relation} {quantifier : Quantifier}
    (form : membership? relation quantifier = none) {x : Scalar} (hx : x.isOwn = true)
    {members : List Value} (some' : members ≠ []) (rest : List Token) :
    readTree predicate (tokensOfSymbols d (Symbols.chained quantifier
        (members.map fun v => Symbols.compared relation (scalarSymbols x) [.literal v])) ++ rest) =
      some (.overValues relation x.canon quantifier (members.map Value.stated), rest) := by
  obtain ⟨v, more, rfl⟩ := List.exists_cons_of_ne_nil some'
  have connective : (Symbol.word (Symbols.connectiveWord quantifier)).tokens d =
      [.word (Symbols.connectiveWord quantifier)] := rfl
  have written : tokensOfSymbols d (Symbols.chained quantifier
      ((v :: more).map fun v => Symbols.compared relation (scalarSymbols x) [.literal v])) ++ rest =
        .sign "(" :: (tokensOfSymbols d (Symbols.compared relation (scalarSymbols x) [.literal v]) ++
          (rowTokens d relation quantifier x more ++ .sign ")" :: rest)) := by
    rw [Symbols.chained, Symbols.enclosed, tokensOfSymbols_cons, tokensOfSymbols_append,
      tokens_separated connective]
    simp [Symbol.tokens, rowTokens]
  rw [written, readTree, readChain]
  cases more with
  | nil =>
    rw [rowTokens, List.flatMap_nil, List.nil_append,
      readRow_compared hx v (ends_close rest).follows]
    cases relation <;> cases quantifier <;> first | rfl | cases form
  | cons next more =>
    have follows : Follows (rowTokens d relation quantifier x (next :: more) ++ .sign ")" :: rest) :=
      follows_word _ _
    rw [readRow_compared hx v follows]
    simp only [Option.bind_eq_bind, Option.bind_some]
    -- the word behind the first comparison tells the quantifier
    cases quantifier with
    | some => exact readRows_rowTokens .some hx v (next :: more) rest
    | all => exact readRows_rowTokens .all hx v (next :: more) rest

/-- A comparison with a list is read as far as it is written. -/
theorem readTree_valuesSymbols (relation : Relation) (quantifier : Quantifier) {x : Scalar}
    (hx : x.isOwn = true) (members : List Value) {rest : List Token} (ends : Ends rest) :
    readTree predicate
        (tokensOfSymbols d (valuesSymbols relation quantifier (scalarSymbols x) members) ++ rest) =
      some (.overValues relation x.canon quantifier (members.map Value.stated), rest) := by
  unfold valuesSymbols
  split
  · rename_i empty
    rw [List.isEmpty_iff.1 empty]
    have one (n : Int64) : Scalar.isOwn (.literal (.integer n)) = true := rfl
    exact readTree_compared predicate (one 1) (one _) ends
  · rename_i some'
    have some' : members ≠ [] := by simpa using some'
    cases form : membership? relation quantifier with
    | some negated =>
      rw [readTree_membership predicate form hx, readMembers_listed predicate _ _ _ some']
      have one : quantifier.ofOne relation = quantifier := by
        cases relation <;> first | rfl | cases form
      obtain ⟨v, more, rfl⟩ := List.exists_cons_of_ne_nil some'
      cases more with
      | nil => simp only [List.map_cons, List.map_nil, Predicate.overValues_one, one]
      | cons next more => rfl
    | none => exact readTree_chained predicate form hx some' rest

end Lists

/-! ## Reading sub-queries -/

section Queries

variable {d : Dialect} (predicate : TokenReader Predicate)

theorem readTable_source (t : Table) {s : List Token} (other : s.head? ≠ some (.word "AS")) :
    readTable ((Symbol.source t).tokens d ++ s) = some (t.canon, s) := by
  rw [Symbol.tokens]
  cases aliased : t.isAliased with
  | true => rfl
  | false =>
    have same : t.name = t.label := by simpa [Table.isAliased] using aliased
    have canon : t.canon = ⟨t.name, t.name, []⟩ := by rw [Table.canon, ← same]
    show readTable (.name t.name :: s) = _
    unfold readTable
    split
    · rename_i aliasing
      cases aliasing
      exact absurd rfl other
    · rename_i plain
      cases plain
      rw [canon]
    · rename_i none
      exact absurd rfl (none _ _)

/-- The symbols, in front of a closing parenthesis, are read as the predicate. -/
def Filters (d : Dialect) (filter : List Symbol) (p : Predicate) : Prop :=
  ∀ rest, predicate (tokensOfSymbols d filter ++ .sign ")" :: rest) = some (p, .sign ")" :: rest)

/-- What is read of a query whose filter, if it has one, is read in its place. -/
theorem readQuery_selection {value : Scalar} (own : value.isOwn = true) (label : String)
    (source : Table) {filter : Option (List Symbol)} {p : Option Predicate}
    (read : Option.Rel (Filters predicate d) filter p) (rest : List Token) :
    readQuery predicate (tokensOfSymbols d
        (Symbols.selection (scalarSymbols value) label source filter) ++ .sign ")" :: rest) =
      some (.select source.canon value.canon p, .sign ")" :: rest) := by
  have written : tokensOfSymbols d (Symbols.selection (scalarSymbols value) label source filter) ++
      .sign ")" :: rest = .word "SELECT" :: (tokensOfSymbols d (scalarSymbols value) ++
        .word "AS" :: .name label :: .word "FROM" :: ((Symbol.source source).tokens d ++
          (tokensOfSymbols d (filter.elim [] (.word "WHERE" :: ·)) ++ .sign ")" :: rest))) := by
    simp [Symbols.selection, Symbol.tokens]
  rw [written, readQuery]
  simp only [skip_cons, skip_nil, Option.bind_eq_bind, Option.bind_some,
    readScalar_symbols own (follows_word _ _), skipName_cons]
  cases read with
  | none =>
    rw [readTable_source source (by simp)]
    rfl
  | some filters =>
    rw [readTable_source source (by simp [Symbol.tokens])]
    simp [Symbol.tokens, filters rest]

/-- The symbols are a selection, and in parentheses they are read as the query. -/
structure Recovers (d : Dialect) (members : List Symbol) (q : Query) : Prop where
  select : ∃ more, members = .word "SELECT" :: more
  read : ∀ rest, readQuery predicate (tokensOfSymbols d members ++ .sign ")" :: rest) =
    some (q, .sign ")" :: rest)

section Forms

variable {predicate} {members : List Symbol} {q : Query} {relation : Relation}
  {quantifier : Quantifier} {x : Scalar}

theorem readMembers_query (h : Recovers predicate d members q) (lhs : Scalar) (rest : List Token) :
    readMembers predicate relation quantifier lhs
        (tokensOfSymbols d (Symbols.enclosed members) ++ rest) =
      some (.collective relation lhs (.query quantifier q), rest) := by
  have select : (tokensOfSymbols d members ++ .sign ")" :: rest).head? = some (.word "SELECT") := by
    obtain ⟨more, rfl⟩ := h.select
    rfl
  rw [tokens_enclosed, readMembers]
  simp only [skip_cons, skip_nil, Option.bind_eq_bind, Option.bind_some, if_pos select, h.read]

/-- A native comparison with a query is read back as a tree. -/
theorem readTree_quantified (h : Recovers predicate d members q) (hx : x.isOwn = true)
    (rest : List Token) :
    readTree predicate (tokensOfSymbols d
        (Symbols.quantified relation quantifier (scalarSymbols x) members) ++ rest) =
      some (.collective relation x.canon (.query quantifier q), rest) := by
  have word (w : String) (s : List Token) :
      tokensOfSymbols d (.word w :: Symbols.enclosed members) ++ s =
        .word w :: .sign "(" :: (tokensOfSymbols d members ++ .sign ")" :: s) := by
    rw [← tokens_enclosed]
    rfl
  rw [Symbols.quantified, tokens_compared, readTree_scalar predicate hx (follows_relation _ _), word]
  cases quantifier <;>
    simp [readTail, relation?_sign, Symbols.quantifierWord, readQuantified, h.read]

/-- The comparison in a condition on existence, with what is around it. -/
theorem readExistence_existing (relation : Relation) (quantifier : Quantifier)
    (h : Recovers predicate d members q) (hx : x.isOwn = true) (label : String)
    (rest : List Token) :
    readExistence predicate quantifier
        (.sign "(" :: .word "SELECT" :: .number "1" :: .word "FROM" :: .sign "(" ::
          (tokensOfSymbols d members ++ .sign ")" :: .word "AS" :: .name label :: .word "WHERE" ::
            ((brackets quantifier).1 ++ tokensOfSymbols d
              (Symbols.compared relation (scalarSymbols x) [.member label]) ++
                (brackets quantifier).2 ++ rest))) =
      some (.collective relation x.canon (.query quantifier q), rest) := by
  have member (s : List Token) : tokensOfSymbols d [.member label] ++ s =
      .name label :: .sign "." :: .name valueAlias :: s := rfl
  have opened (s : List Token) : skip (brackets quantifier).1 ((brackets quantifier).1 ++ s) =
      some s := by
    cases quantifier <;> simp [brackets]
  have closed (s : List Token) : skip (brackets quantifier).2 ((brackets quantifier).2 ++ s) =
      some s := by
    cases quantifier <;> simp [brackets]
  rw [readExistence]
  simp only [skip_cons, skip_nil, Option.bind_eq_bind, Option.bind_some, h.read, skipName_cons,
    List.append_assoc, List.cons_append, opened, tokens_compared, member,
    readScalar_symbols hx (follows_relation _ _), readRelation_sign, closed]

/-- Either form of an emulated comparison is read as the comparison. -/
theorem readTree_existing (h : Recovers predicate d members q) (hx : x.isOwn = true)
    (label : String) (rest : List Token) :
    readTree predicate (tokensOfSymbols d
        (match quantifier with
          | .some => Symbols.existing false members label
              (Symbols.compared relation (scalarSymbols x) [.member label])
          | .all => Symbols.existing true members label (Symbols.notTrue
              (Symbols.compared relation (scalarSymbols x) [.member label]))) ++ rest) =
      some (.collective relation x.canon (.query quantifier q), rest) := by
  have one : literalTokens d (.integer 1) = [.number "1"] := rfl
  have read := readExistence_existing relation quantifier h hx label rest
  cases quantifier with
  | some =>
    rw [← read]
    simp [Symbols.existing, Symbols.maybeNot, Symbols.enclosed, Symbol.tokens, one, brackets, readTree]
  | all =>
    rw [← read]
    simp [Symbols.existing, Symbols.notTrue, Symbols.maybeNot, Symbols.enclosed, Symbol.tokens, one,
      brackets, readTree]

/-- Every form of a comparison with a sub-query is read as the comparison. -/
theorem reads_querySymbols {writing : Naming (List Symbol)}
    (h : Always writing (Recovers predicate d · q)) (hx : x.isOwn = true) :
    Always (querySymbols d relation quantifier (scalarSymbols x) writing) fun l => ∀ rest,
      readTree predicate (tokensOfSymbols d l ++ rest) =
        some (.collective relation x.canon (.query quantifier q), rest) := by
  unfold querySymbols
  cases form : membership? relation quantifier with
  | some negated =>
    refine always_bind h fun members recovers => always_pure fun rest => ?_
    rw [readTree_membership predicate form hx, readMembers_query recovers]
  | none =>
    dsimp only
    split
    · refine always_bind h fun members recovers => always_pure fun rest => ?_
      exact readTree_quantified recovers hx rest
    · refine always_bind always_freshAlias fun label _ => ?_
      refine always_bind h fun members recovers => always_pure fun rest => ?_
      exact readTree_existing recovers hx label rest

end Forms

end Queries

/-! ## Reading predicates -/

section Predicates

variable {d : Dialect}

mutual

/-- A query is read back as its canonical one, given depth enough. -/
theorem reads_query (label : String) : (q : Query) → q.isOwn = true → ∀ n, q.depth ≤ n →
    Always (Query.symbols d label q) (Recovers (readPredicate n) d · q.canon)
  | .select source value filter, own, n, deep => by
    simp only [Query.isOwn, Bool.and_eq_true] at own
    rw [Query.depth] at deep
    rw [Query.symbols, Query.canon]
    refine always_bind (reads_option filter own.2 n (by omega)) fun written read => always_pure ?_
    exact ⟨⟨_, rfl⟩, readQuery_selection _ own.1 label source read⟩
  | .verbatim _ _, own, _, _ => by simp [Query.isOwn] at own

/-- The tokens of a predicate are read as its canonical form. -/
theorem reads_predicate : (p : Predicate) → p.isOwn = true → ∀ n, p.depth < n →
    Always (Predicate.symbols d p) fun l => ∀ rest, Ends rest →
      readPredicate n (tokensOfSymbols d l ++ rest) = some (p.canon, rest)
  | .compare relation lhs rhs, own, n + 1, _ => by
    simp only [Predicate.isOwn, Bool.and_eq_true] at own
    rw [Predicate.symbols, Predicate.canon]
    exact always_pure fun rest ends => readTree_compared _ own.1 own.2 ends
  | .collective relation lhs (.values quantifier members), own, n + 1, _ => by
    simp only [Predicate.isOwn, Bool.and_eq_true] at own
    rw [Predicate.symbols, Collective.symbols, Predicate.canon]
    exact always_pure fun rest ends => readTree_valuesSymbols _ relation quantifier own.1 members ends
  | .collective relation lhs (.query quantifier members), own, n + 1, deep => by
    simp only [Predicate.isOwn, Collective.isOwn, Bool.and_eq_true] at own
    rw [Predicate.depth] at deep
    rw [Predicate.symbols, Collective.symbols, Predicate.canon]
    have inner := reads_query valueAlias members own.2 n (by omega)
    exact always_mono (reads_querySymbols inner own.1) fun l read rest _ => read rest
  | .all _, own, _, _ => by simp [Predicate.isOwn] at own
  | .verbatim _ _, own, _, _ => by simp [Predicate.isOwn] at own

theorem reads_option : (filter : Option Predicate) → Predicate.optionIsOwn filter = true →
    ∀ n, Predicate.optionDepth filter < n →
      Always (Predicate.optionSymbols d filter)
        (Option.Rel (Filters (readPredicate n) d) · (Predicate.optionCanon filter))
  | none, _, _, _ => by
    rw [Predicate.optionSymbols, Predicate.optionCanon]
    exact always_pure .none
  | some p, own, n, deep => by
    rw [Predicate.optionDepth] at deep
    rw [Predicate.optionSymbols, Predicate.optionCanon]
    refine always_bind (reads_predicate p own n deep) fun c read => always_pure (.some fun rest => ?_)
    exact read _ (ends_close rest)

end

end Predicates

end Sql.Readback

end PooledSql
