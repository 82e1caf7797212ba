import PooledSql.Proofs.Rendering.Symbols
import PooledSql.Sql.Evaluation

/-!
# Reading conditions back

A reader of written SQL, with the usual precedence: `OR` binds loosest, then `AND`, then everything
that is compared, tested for membership or existence, or put in parentheses. It knows nothing of how
conditions are written.

The symbols of a condition are read as that condition, except that a chain of one part is read as
the part, the parentheses around it being all that is written of it.

Results:
* `read_symbols`, `read_chain`: the symbols of a condition are read as its normal form, and those of
  a chain as the chain of the normal forms.
* `truth_normal`: which has the same truth value.
-/

namespace PooledSql.Sql

/-! ## The reader -/

/-- Reads something from the front of some symbols, and leaves the rest. -/
abbrev Reader (α : Type) := List Symbol → Option (α × List Symbol)

/-- Reads the one symbol that has to come next. -/
def expect (x : Symbol) : List Symbol → Option (List Symbol)
  | [] => none
  | y :: rest => if y = x then some rest else none

/-- Reads a column, a value of a named sub-query, or a literal. -/
def readOperand : Reader Operand
  | .column c :: rest => some (.column c, rest)
  | .member label :: rest => some (.member label, rest)
  | .literal v :: rest => some (.literal v, rest)
  | _ => none

/-- Reads a literal. -/
def readLiteral : Reader Value
  | .literal v :: rest => some (v, rest)
  | _ => none

/-- Reads a name that is given. -/
def readName : Reader String
  | .name s :: rest => some (s, rest)
  | _ => none

/-- Reads a table. -/
def readSource : Reader Table
  | .source t :: rest => some (t, rest)
  | _ => none

/-- Reads items with a separator between them, as many as there are but at most `n`. -/
def readSeparated {α : Type} (separator : Symbol) (item : Reader α) : Nat → Reader (List α)
  | 0, _ => none
  | n + 1, s =>
    match item s with
    | none => none
    | some (x, rest) =>
      match expect separator rest with
      | none => some ([x], rest)
      | some onward => (readSeparated separator item n onward).map fun p => (x :: p.1, p.2)

/-- A relation by its sign. -/
def relation? : String → Option Relation
  | "=" => some .equal
  | "<>" => some .notEqual
  | "<" => some .less
  | "<=" => some .lessOrEqual
  | ">" => some .greater
  | ">=" => some .greaterOrEqual
  | _ => none

/-- Some conditions under one connective; a single one stands for itself. -/
def gathered (quantifier : Quantifier) : List Condition → Condition
  | [c] => c
  | parts => chain quantifier parts

section Levels

variable (condition : Reader Condition)

/-- Reads `SELECT value AS label FROM source [WHERE filter]`. -/
def readSelection : Reader Subquery := fun s => do
  let (value, s) ← readOperand (← expect (.word "SELECT") s)
  let (label, s) ← readName (← expect (.word "AS") s)
  let (source, s) ← readSource (← expect (.word "FROM") s)
  match expect (.word "WHERE") s with
  | none => some (.select value label source none, s)
  | some s => do
    let (filter, s) ← condition s
    some (.select value label source (some filter), s)

/-- Reads a selection in parentheses. -/
def readEnclosed : Reader Subquery := fun s => do
  let (q, s) ← readSelection condition (← expect (.sign "(") s)
  some (q, ← expect (.sign ")") s)

/-- Reads `(SELECT 1 FROM (members) AS label WHERE filter)`. -/
def readExistence (negated : Bool) : Reader Condition := fun s => do
  let s ← expect (.word "SELECT") (← expect (.sign "(") s)
  let s ← expect (.word "FROM") (← expect (.literal (.integer 1)) s)
  let (members, s) ← readEnclosed condition s
  let (label, s) ← readName (← expect (.word "AS") s)
  let (filter, s) ← condition (← expect (.word "WHERE") s)
  some (.existing negated members label filter, ← expect (.sign ")") s)

/-- Reads `(members)` after `IN`: a selection if it starts as one, and else a list. -/
def readMembers (negated : Bool) (lhs : Operand) : Reader Condition := fun s => do
  let s ← expect (.sign "(") s
  match expect (.word "SELECT") s with
  | some _ => do
    let (q, s) ← readSelection condition s
    some (.inQuery negated lhs q, ← expect (.sign ")") s)
  | none => do
    let (members, s) ← readSeparated (.sign ",") readLiteral s.length s
    some (.inValues negated lhs members, ← expect (.sign ")") s)

/-- Reads what comes after the left operand of a comparison. -/
def readComparison (lhs : Operand) : Reader Condition
  | .word "IN" :: s => readMembers condition false lhs s
  | .word "NOT" :: .word "IN" :: s => readMembers condition true lhs s
  | .sign sign :: s => do
    let relation ← relation? sign
    match s with
    | .word "ANY" :: s => do
      let (q, s) ← readEnclosed condition s
      some (.quantified relation .some lhs q, s)
    | .word "ALL" :: s => do
      let (q, s) ← readEnclosed condition s
      some (.quantified relation .all lhs q, s)
    | s => do
      let (rhs, s) ← readOperand s
      some (.compare relation lhs rhs, s)
  | _ => none

/-- Reads a condition that binds tighter than `AND`. -/
def readTest : Reader Condition
  | .word "EXISTS" :: s => readExistence condition false s
  | .word "NOT" :: .word "EXISTS" :: s => readExistence condition true s
  | .sign "(" :: s => do
    let (c, s) ← condition s
    match ← expect (.sign ")") s with
    | .word "IS" :: .word "NOT" :: .word "TRUE" :: s => some (.notTrue c, s)
    | s => some (c, s)
  | s => do
    let (lhs, s) ← readOperand s
    readComparison condition lhs s

/-- Reads conditions between which there is `AND`. -/
def readConjunction (test : Reader Condition) : Reader Condition := fun s =>
  (readSeparated (.word "AND") test s.length s).map fun p => (gathered .all p.1, p.2)

/-- Reads conditions between which there is `OR`. -/
def readDisjunction (test : Reader Condition) : Reader Condition := fun s =>
  (readSeparated (.word "OR") (readConjunction test) s.length s).map fun p =>
    (gathered .some p.1, p.2)

end Levels

/-- Reads a condition with fewer than `n` parentheses around each part. -/
def readCondition : Nat → Reader Condition
  | 0 => fun _ => none
  | n + 1 => readDisjunction (readTest (readCondition n))

/-- Reads symbols that are a condition, as a whole. -/
def read (s : List Symbol) : Option Condition :=
  match readCondition (s.length + 1) s with
  | some (c, []) => some c
  | _ => none

/-! ## The normal form -/

mutual

/-- The condition with every chain of one part replaced by the part. -/
def Condition.normal : Condition → Condition
  | .compare relation lhs rhs => .compare relation lhs rhs
  | .inValues negated lhs members => .inValues negated lhs members
  | .inQuery negated lhs members => .inQuery negated lhs members.normal
  | .quantified relation quantifier lhs members =>
    .quantified relation quantifier lhs members.normal
  | .existing negated members label filter => .existing negated members.normal label filter.normal
  | .notTrue part => .notTrue part.normal
  | .any parts => gathered .some (Condition.listNormal parts)
  | .all parts => gathered .all (Condition.listNormal parts)
  | .verbatim text => .verbatim text

/-- The normal form of each of some conditions. -/
def Condition.listNormal : List Condition → List Condition
  | [] => []
  | c :: rest => c.normal :: Condition.listNormal rest

/-- The normal form of a filter, if there is one. -/
def Condition.optionNormal : Option Condition → Option Condition
  | none => none
  | some c => some c.normal

/-- The sub-query with its filter in normal form. -/
def Subquery.normal : Subquery → Subquery
  | .select value label source filter => .select value label source (Condition.optionNormal filter)
  | .verbatim text => .verbatim text

end

theorem listNormal_eq_map (parts : List Condition) :
    Condition.listNormal parts = parts.map Condition.normal := by
  induction parts with
  | nil => rfl
  | cons c rest ih => rw [Condition.listNormal, ih, List.map_cons]

/-! ## Reading what is written, part by part -/

@[simp]
theorem expect_cons (x : Symbol) (rest : List Symbol) : expect x (x :: rest) = some rest := by
  simp [expect]

theorem expect_eq_none {x : Symbol} {s : List Symbol} (h : s.head? ≠ some x) :
    expect x s = none := by
  cases s with
  | nil => rfl
  | cons y rest => simpa [expect] using h

theorem relation?_sign (relation : Relation) : relation? (Symbols.relationSign relation) = some relation := by
  cases relation <;> decide

/-- A list of parts is no longer than what is written of it. -/
theorem length_le_separated {α β : Type} {f : β → List α} (parts : List β) (separator : List α)
    (some : ∀ p ∈ parts, f p ≠ []) :
    parts.length ≤ (separated separator (parts.map f)).length := by
  induction parts with
  | nil => exact Nat.le_refl 0
  | cons p more ih =>
    have one : 0 < (f p).length := List.length_pos_iff.2 (some p (by simp))
    have onward := ih fun q h => some q (List.mem_cons_of_mem _ h)
    cases more with
    | nil => exact one
    | cons q more =>
      simp only [List.map_cons, separated, List.length_append, List.length_cons] at onward ⊢
      omega

/-- Items are read one by one if each is read where the separator or the rest follows it. -/
theorem readSeparated_separated {α β : Type} {separator : Symbol} {item : Reader α}
    {f : β → List Symbol} {g : β → α} {rest : List Symbol} {parts : List β}
    (follow : List Symbol → Prop) (some' : parts ≠ [])
    (each : ∀ p ∈ parts, ∀ x, follow x → item (f p ++ x) = some (g p, x))
    (between : ∀ x, follow (separator :: x)) (after : follow rest)
    (ends : rest.head? ≠ some separator) {n : Nat} (enough : parts.length ≤ n) :
    readSeparated separator item n (separated [separator] (parts.map f) ++ rest) =
      some (parts.map g, rest) := by
  induction parts generalizing n with
  | nil => exact absurd rfl some'
  | cons p more ih =>
    obtain ⟨n, rfl⟩ : ∃ m, n = m + 1 := ⟨n - 1, by simp only [List.length_cons] at enough; omega⟩
    have first := each p (by simp)
    cases more with
    | nil =>
      simp only [List.map_cons, List.map_nil, separated, readSeparated, first rest after,
        expect_eq_none ends]
    | cons q more =>
      have onward := ih (by simp) (fun p' h => each p' (List.mem_cons_of_mem _ h))
        (Nat.le_of_succ_le_succ enough)
      simp only [List.map_cons] at onward
      simp only [List.map_cons, separated, List.append_assoc, List.cons_append, List.nil_append,
        readSeparated, first _ (between _), expect_cons, onward, Option.map_some]

theorem readOperand_symbols {o : Operand} (readable : o.isReadable = true) (rest : List Symbol) :
    readOperand (o.symbols ++ rest) = some (o, rest) := by
  cases o with
  | column | member | literal => rfl
  | subquery | verbatim => simp [Operand.isReadable] at readable

theorem readMembers_listed (condition : Reader Condition) {members : List Value} (negated : Bool)
    (lhs : Operand) (some' : members ≠ []) (rest : List Symbol) :
    readMembers condition negated lhs (Symbols.enclosed (Symbols.listed members) ++ rest) =
      some (.inValues negated lhs members, rest) := by
  have enough : members.length ≤ (Symbols.listed members ++ .sign ")" :: rest).length := by
    have := length_le_separated (f := fun v => [Symbol.literal v]) members [.sign ","] (by simp)
    simp only [Symbols.listed, List.length_append]
    omega
  have list : readSeparated (.sign ",") readLiteral
      (Symbols.listed members ++ .sign ")" :: rest).length
      (Symbols.listed members ++ .sign ")" :: rest) = some (members.map id, .sign ")" :: rest) :=
    readSeparated_separated (fun _ => True) some' (fun v _ x _ => rfl) (fun _ => trivial) trivial
      (by simp) enough
  have start : expect (.word "SELECT") (Symbols.listed members ++ .sign ")" :: rest) = none := by
    refine expect_eq_none ?_
    cases members with
    | nil => exact absurd rfl some'
    | cons v more => cases more <;> simp [Symbols.listed, separated]
  simp only [readMembers, Symbols.enclosed, List.cons_append, List.append_assoc, List.nil_append,
    expect_cons, Option.bind_eq_bind, Option.bind_some, start, list, List.map_id]

/-! ## Reading what is written, as a whole -/

/-- A condition ends here: the symbols end, or a parenthesis closes. -/
def Closes : List Symbol → Prop
  | [] => True
  | x :: _ => x = .sign ")"

/-- Chains of at most `n` symbols are read up to where they end. A single condition is a chain. -/
def ReadsChains (condition : Reader Condition) (n : Nat) : Prop :=
  ∀ quantifier parts, parts ≠ [] → (∀ c ∈ parts, c.isReadable = true) →
    (separated [.word (Symbols.connectiveWord quantifier)]
      (parts.map Condition.symbols)).length ≤ n →
    ∀ rest, Closes rest →
      condition (separated [.word (Symbols.connectiveWord quantifier)]
          (parts.map Condition.symbols) ++ rest) =
        some (gathered quantifier (parts.map Condition.normal), rest)

section Within

variable {condition : Reader Condition} {n : Nat}

theorem ReadsChains.single (reads : ReadsChains condition n) {c : Condition}
    (readable : c.isReadable = true) (short : c.symbols.length ≤ n) (rest : List Symbol) :
    condition (c.symbols ++ .sign ")" :: rest) = some (c.normal, .sign ")" :: rest) :=
  reads .all [c] (by simp) (by simpa using readable) short _ rfl

theorem readSelection_symbols (reads : ReadsChains condition n) {q : Subquery}
    (readable : q.isReadable = true) (short : q.symbols.length ≤ n) (rest : List Symbol) :
    readSelection condition (q.symbols ++ .sign ")" :: rest) = some (q.normal, .sign ")" :: rest) := by
  cases q with
  | verbatim text => simp [Subquery.isReadable] at readable
  | select value label source filter =>
    simp only [Subquery.isReadable, Bool.and_eq_true] at readable
    cases filter with
    | none =>
      simp [readSelection, Subquery.symbols, Symbols.selection, Condition.optionSymbols,
        readOperand_symbols readable.1, readName, readSource, Subquery.normal,
        Condition.optionNormal, expect]
    | some c =>
      have inside : c.symbols.length ≤ n := by
        simp only [Subquery.symbols, Symbols.selection, Condition.optionSymbols, Option.elim_some,
          List.length_cons, List.length_append] at short
        omega
      have filtered := reads.single readable.2 inside rest
      simp [readSelection, Subquery.symbols, Symbols.selection, Condition.optionSymbols,
        readOperand_symbols readable.1, readName, readSource, Subquery.normal,
        Condition.optionNormal, filtered]

theorem readEnclosed_symbols (reads : ReadsChains condition n) {q : Subquery}
    (readable : q.isReadable = true) (short : q.symbols.length ≤ n) (rest : List Symbol) :
    readEnclosed condition (Symbols.enclosed q.symbols ++ rest) = some (q.normal, rest) := by
  simp [readEnclosed, Symbols.enclosed, readSelection_symbols reads readable short]

theorem readMembers_symbols (reads : ReadsChains condition n) {q : Subquery} (negated : Bool)
    (lhs : Operand) (readable : q.isReadable = true) (short : q.symbols.length ≤ n)
    (rest : List Symbol) :
    readMembers condition negated lhs (Symbols.enclosed q.symbols ++ rest) =
      some (.inQuery negated lhs q.normal, rest) := by
  have start : ∃ onward, expect (.word "SELECT") (q.symbols ++ .sign ")" :: rest) = some onward := by
    cases q with
    | verbatim text => simp [Subquery.isReadable] at readable
    | select value label source filter => exact ⟨_, rfl⟩
  obtain ⟨onward, start⟩ := start
  simp [readMembers, Symbols.enclosed, start, readSelection_symbols reads readable short]

/-- An emulation is read back, if conditions up to its length are. -/
theorem readExistence_symbols (reads : ReadsChains condition n) (negated : Bool) {q : Subquery}
    (label : String) {filter : Condition} (readable : q.isReadable = true)
    (readable' : filter.isReadable = true) (short : q.symbols.length ≤ n)
    (short' : filter.symbols.length ≤ n) (rest : List Symbol) :
    readExistence condition negated
        (Symbols.enclosed (.word "SELECT" :: .literal (.integer 1) :: .word "FROM" ::
          (Symbols.enclosed q.symbols ++ .word "AS" :: .name label :: .word "WHERE" ::
            filter.symbols)) ++ rest) =
      some (.existing negated q.normal label filter.normal, rest) := by
  have members := readEnclosed_symbols reads readable short
    (.word "AS" :: .name label :: .word "WHERE" :: (filter.symbols ++ .sign ")" :: rest))
  have filtered := reads.single readable' short' rest
  simp only [readExistence, Symbols.enclosed, List.cons_append, List.append_assoc, List.nil_append,
    expect_cons, Option.bind_eq_bind, Option.bind_some] at members ⊢
  simp only [members, Option.bind_some, expect_cons, readName, filtered]

theorem readTest_operand {o : Operand} (readable : o.isReadable = true) (rest : List Symbol) :
    readTest condition (o.symbols ++ rest) = readComparison condition o rest := by
  cases o with
  | column | member | literal => rfl
  | subquery | verbatim => simp [Operand.isReadable] at readable

theorem readComparison_operand (relation : Relation) (lhs : Operand) {rhs : Operand}
    (readable : rhs.isReadable = true) (rest : List Symbol) :
    readComparison condition lhs (.sign (Symbols.relationSign relation) :: (rhs.symbols ++ rest)) =
      some (.compare relation lhs rhs, rest) := by
  cases rhs with
  | column | member | literal =>
    simp [readComparison, Operand.symbols, relation?_sign, readOperand]
  | subquery | verbatim => simp [Operand.isReadable] at readable

/-- What stands in parentheses is read as it is, unless it is denied to be true. -/
theorem readTest_enclosed {c : Condition} {part rest : List Symbol}
    (inside : condition (part ++ .sign ")" :: rest) = some (c, .sign ")" :: rest))
    (ends : rest.head? ≠ some (.word "IS")) :
    readTest condition (Symbols.enclosed part ++ rest) = some (c, rest) := by
  simp only [readTest, Symbols.enclosed, List.cons_append, List.append_assoc, List.nil_append,
    inside, Option.bind_eq_bind, Option.bind_some, expect_cons]
  split
  · simp at ends
  · rfl

/-- A chain in parentheses is read back as one condition. -/
theorem readTest_chained (reads : ReadsChains condition n) (quantifier : Quantifier)
    {parts : List Condition} (some' : parts ≠ []) (readable : Condition.listIsReadable parts = true)
    (short : (Symbols.chained quantifier (Condition.listSymbols parts)).length ≤ n + 1)
    {rest : List Symbol} (ends : rest.head? ≠ some (.word "IS")) :
    readTest condition (Symbols.chained quantifier (Condition.listSymbols parts) ++ rest) =
      some (gathered quantifier (Condition.listNormal parts), rest) := by
  rw [listSymbols_eq_map] at short ⊢
  rw [listNormal_eq_map]
  have inside : (separated [.word (Symbols.connectiveWord quantifier)]
      (parts.map Condition.symbols)).length ≤ n := by
    simp only [Symbols.chained, Symbols.enclosed, List.length_append, List.length_cons] at short
    omega
  exact readTest_enclosed
    (reads quantifier parts some' (listIsReadable_iff.1 readable) inside _ rfl) ends

/-- A condition is read if the chains within its parentheses are. -/
theorem readTest_symbols (reads : ReadsChains condition n) {c : Condition}
    (readable : c.isReadable = true) (short : c.symbols.length ≤ n + 1) {rest : List Symbol}
    (ends : rest.head? ≠ some (.word "IS")) :
    readTest condition (c.symbols ++ rest) = some (c.normal, rest) := by
  cases c with
  | verbatim text => simp [Condition.isReadable] at readable
  | compare relation lhs rhs =>
    simp only [Condition.isReadable, Bool.and_eq_true] at readable
    simp only [Condition.symbols, Symbols.compared, List.append_assoc, List.cons_append,
      readTest_operand readable.1, readComparison_operand relation lhs readable.2,
      Condition.normal]
  | inValues negated lhs members =>
    simp only [Condition.isReadable, Bool.and_eq_true, Bool.not_eq_true', List.isEmpty_eq_false_iff]
      at readable
    have list := readMembers_listed condition negated lhs readable.2 rest
    cases negated <;>
      simp only [Condition.symbols, Symbols.membership, Symbols.maybeNot, List.append_assoc,
        readTest_operand readable.1, List.cons_append, List.nil_append, Condition.normal,
        if_true, if_false, Bool.false_eq_true, readComparison, list]
  | inQuery negated lhs members =>
    simp only [Condition.isReadable, Bool.and_eq_true] at readable
    have inside : members.symbols.length ≤ n := by
      simp only [Condition.symbols, Symbols.membership, Symbols.enclosed, List.length_append,
        List.length_cons] at short
      omega
    have query := readMembers_symbols reads negated lhs readable.2 inside rest
    cases negated <;>
      simp only [Condition.symbols, Symbols.membership, Symbols.maybeNot, List.append_assoc,
        readTest_operand readable.1, List.cons_append, List.nil_append, Condition.normal,
        if_true, if_false, Bool.false_eq_true, readComparison, query]
  | quantified relation quantifier lhs members =>
    simp only [Condition.isReadable, Bool.and_eq_true] at readable
    have inside : members.symbols.length ≤ n := by
      simp only [Condition.symbols, Symbols.quantified, Symbols.compared, Symbols.enclosed,
        List.length_append, List.length_cons] at short
      omega
    have query := readEnclosed_symbols reads readable.2 inside rest
    cases quantifier <;>
      simp only [Condition.symbols, Symbols.quantified, Symbols.compared, Symbols.quantifierWord,
        List.append_assoc, readTest_operand readable.1, List.cons_append, Condition.normal,
        readComparison, relation?_sign, Option.bind_eq_bind, Option.bind_some, query]
  | existing negated members label filter =>
    simp only [Condition.isReadable, Bool.and_eq_true] at readable
    have inside : members.symbols.length ≤ n ∧ filter.symbols.length ≤ n := by
      simp only [Condition.symbols, Symbols.existing, Symbols.enclosed, List.length_append,
        List.length_cons] at short
      omega
    have existence := readExistence_symbols reads negated label readable.1 readable.2 inside.1
      inside.2 rest
    cases negated <;>
      simp only [Condition.symbols, Symbols.existing, Symbols.maybeNot, List.cons_append,
        List.nil_append, Condition.normal, if_true, if_false, Bool.false_eq_true, readTest]
        at existence ⊢ <;>
      exact existence
  | notTrue part =>
    rw [Condition.isReadable] at readable
    have inside : part.symbols.length ≤ n := by
      simp only [Condition.symbols, Symbols.notTrue, Symbols.enclosed, List.length_append,
        List.length_cons] at short
      omega
    simp only [Condition.symbols, Symbols.notTrue, Symbols.enclosed, List.cons_append,
      List.append_assoc, List.nil_append, readTest, reads.single readable inside,
      Option.bind_eq_bind, Option.bind_some, expect_cons, Condition.normal]
  | any parts =>
    simp only [Condition.isReadable, Bool.and_eq_true, Bool.not_eq_true',
      List.isEmpty_eq_false_iff] at readable
    rw [Condition.symbols] at short ⊢
    rw [Condition.normal]
    exact readTest_chained reads .some readable.1 readable.2 short ends
  | all parts =>
    simp only [Condition.isReadable, Bool.and_eq_true, Bool.not_eq_true',
      List.isEmpty_eq_false_iff] at readable
    rw [Condition.symbols] at short ⊢
    rw [Condition.normal]
    exact readTest_chained reads .all readable.1 readable.2 short ends

end Within

/-! ## The levels of precedence -/

theorem symbols_ne_nil {c : Condition} (readable : c.isReadable = true) : c.symbols ≠ [] := by
  cases c with
  | verbatim text => simp [Condition.isReadable] at readable
  | compare | inValues | inQuery | quantified | existing | notTrue | any | all =>
    simp [Condition.symbols, Symbols.compared, Symbols.membership, Symbols.quantified,
      Symbols.existing, Symbols.notTrue, Symbols.chained, Symbols.enclosed]

theorem length_le_of_mem {α β : Type} {f : β → List α} (separator : List α) {parts : List β}
    {p : β} (h : p ∈ parts) :
    (f p).length ≤ (separated separator (parts.map f)).length := by
  induction parts with
  | nil => simp at h
  | cons q more ih =>
    cases more with
    | nil =>
      rw [List.mem_singleton.1 h]
      exact Nat.le_refl _
    | cons r more =>
      simp only [List.map_cons, separated, List.length_append] at ih ⊢
      rcases List.mem_cons.1 h with rfl | h
      · omega
      · have := ih h
        omega

theorem readSeparated_single {α : Type} {separator : Symbol} {item : Reader α} {a : α}
    {s rest : List Symbol} (first : item s = some (a, rest)) (ends : rest.head? ≠ some separator)
    {n : Nat} (enough : 0 < n) : readSeparated separator item n s = some ([a], rest) := by
  obtain ⟨n, rfl⟩ : ∃ m, n = m + 1 := ⟨n - 1, by omega⟩
  simp only [readSeparated, first, expect_eq_none ends]

theorem Closes.head?_ne {rest : List Symbol} (closes : Closes rest) (w : String) :
    rest.head? ≠ some (.word w) := by
  cases rest with
  | nil => simp
  | cons x more =>
    cases closes
    simp

/-- A reader of conditions that bind tighter than `AND` makes one of chains. -/
theorem readsChains_disjunction {test : Reader Condition} {n : Nat}
    (reads : ∀ c : Condition, c.isReadable = true → c.symbols.length ≤ n →
      ∀ rest : List Symbol, rest.head? ≠ some (.word "IS") →
        test (c.symbols ++ rest) = some (c.normal, rest)) :
    ReadsChains (readDisjunction test) n := by
  intro quantifier parts some' readable short rest closes
  have each (c : Condition) (hc : c ∈ parts) (x : List Symbol)
      (ends : x.head? ≠ some (.word "IS")) : test (c.symbols ++ x) = some (c.normal, x) :=
    reads c (readable c hc) (Nat.le_trans (length_le_of_mem _ hc) short) x ends
  have enough : parts.length ≤ (separated [.word (Symbols.connectiveWord quantifier)]
      (parts.map Condition.symbols) ++ rest).length := by
    have := length_le_separated (f := Condition.symbols) parts
      [.word (Symbols.connectiveWord quantifier)] fun c hc => symbols_ne_nil (readable c hc)
    rw [List.length_append]
    omega
  have one : 0 < parts.length := List.length_pos_iff.2 some'
  cases quantifier with
  | all =>
    have list := readSeparated_separated (fun x => x.head? ≠ some (.word "IS")) some' each
      (fun x => by simp) (closes.head?_ne "IS") (closes.head?_ne "AND") enough
    have conjunction : readConjunction test (separated [.word "AND"]
        (parts.map Condition.symbols) ++ rest) =
          some (gathered .all (parts.map Condition.normal), rest) :=
      congrArg (Option.map fun p : List Condition × List Symbol => (gathered .all p.1, p.2)) list
    have single := readSeparated_single conjunction (closes.head?_ne "OR")
      (Nat.lt_of_lt_of_le one enough)
    exact congrArg (Option.map fun p : List Condition × List Symbol => (gathered .some p.1, p.2))
      single
  | some =>
    -- between two parts there is `OR`, so each of them is a conjunction of its own
    have conjunction (c : Condition) (hc : c ∈ parts) (x : List Symbol)
        (ends : x.head? ≠ some (.word "IS") ∧ x.head? ≠ some (.word "AND")) :
        readConjunction test (c.symbols ++ x) = some (c.normal, x) := by
      have pos : 0 < (c.symbols ++ x).length := by
        have := List.length_pos_iff.2 (symbols_ne_nil (readable c hc))
        rw [List.length_append]
        omega
      rw [readConjunction, readSeparated_single (each c hc x ends.1) ends.2 pos]
      rfl
    have list := readSeparated_separated
      (fun x => x.head? ≠ some (.word "IS") ∧ x.head? ≠ some (.word "AND")) some' conjunction
      (fun x => by simp) ⟨closes.head?_ne "IS", closes.head?_ne "AND"⟩ (closes.head?_ne "OR") enough
    exact congrArg (Option.map fun p : List Condition × List Symbol => (gathered .some p.1, p.2))
      list

/-- With depth to spare for its length, every chain is read back. -/
theorem readsChains_readCondition (n : Nat) : ReadsChains (readCondition n) n := by
  induction n with
  | zero =>
    intro quantifier parts some' readable short
    have := length_le_separated (f := Condition.symbols) parts
      [.word (Symbols.connectiveWord quantifier)] fun c hc => symbols_ne_nil (readable c hc)
    have := List.length_pos_iff.2 some'
    omega
  | succ n ih =>
    exact readsChains_disjunction fun c readable short rest ends =>
      readTest_symbols ih readable short ends

/-- Conditions with `AND` between them, or with `OR`, are read as the chain of their normal forms. -/
theorem read_chain (quantifier : Quantifier) {parts : List Condition} (some' : parts ≠ [])
    (readable : ∀ c ∈ parts, c.isReadable = true) :
    read (separated [.word (Symbols.connectiveWord quantifier)] (parts.map Condition.symbols)) =
      some (gathered quantifier (parts.map Condition.normal)) := by
  have whole := readsChains_readCondition _ quantifier parts some' readable (Nat.le_succ _) [] trivial
  rw [List.append_nil] at whole
  simp only [read, whole]

/-- The symbols of a condition are read as its normal form. -/
theorem read_symbols {c : Condition} (readable : c.isReadable = true) :
    read c.symbols = some c.normal := by
  have one := read_chain .all (List.cons_ne_nil c []) (by simpa using readable)
  simpa only [List.map_cons, List.map_nil, separated, gathered] using one

/-! ## The normal form says the same -/

/-- Gathering a chain into one condition changes nothing of its truth. -/
theorem truth_gathered {ε ν : Type} (R : Reading ε ν) (e : ε) (quantifier : Quantifier)
    (parts : List Condition) :
    (gathered quantifier parts).truth R e =
      .across quantifier (parts.map fun c => c.truth R e) := by
  cases parts with
  | nil => cases quantifier <;> simp [gathered, chain, Condition.truth, listTruth_eq_map] <;> rfl
  | cons c rest =>
    cases rest with
    | nil =>
      simp only [gathered, List.map_cons, List.map_nil]
      cases quantifier <;> cases c.truth R e <;> rfl
    | cons c' rest =>
      cases quantifier <;> simp [gathered, chain, Condition.truth, listTruth_eq_map] <;> rfl

section Normal

variable {ε ν : Type} {R : Reading ε ν}

mutual

/-- The normal form has the same truth value, where the rows of a table are what they are whatever
the filter looks like. -/
theorem truth_normal (rows : ∀ e v t f f', R.rows e v t f = R.rows e v t f') :
    (c : Condition) → ∀ e, c.normal.truth R e = c.truth R e
  | .compare _ _ _, _ | .inValues _ _ _, _ | .verbatim _, _ => rfl
  | .inQuery negated lhs members, e => by
    rw [Condition.normal, Condition.truth, Condition.truth, values_normal rows members e]
  | .quantified relation quantifier lhs members, e => by
    rw [Condition.normal, Condition.truth, Condition.truth, values_normal rows members e]
  | .existing negated members label filter, e => by
    have filtered : (fun v => (filter.normal.truth R (R.bind e label v)).isYes) =
        fun v => (filter.truth R (R.bind e label v)).isYes :=
      funext fun v => by rw [truth_normal rows filter]
    rw [Condition.normal, Condition.truth, Condition.truth, values_normal rows members e, filtered]
  | .notTrue part, e => by
    rw [Condition.normal, Condition.truth, Condition.truth, truth_normal rows part e]
  | .any parts, e => by
    rw [Condition.normal, truth_gathered, truths_normal rows parts e, Condition.truth]
    rfl
  | .all parts, e => by
    rw [Condition.normal, truth_gathered, truths_normal rows parts e, Condition.truth]
    rfl

theorem truths_normal (rows : ∀ e v t f f', R.rows e v t f = R.rows e v t f') :
    (parts : List Condition) → ∀ e,
      (Condition.listNormal parts).map (fun c => c.truth R e) = Condition.listTruth R e parts
  | [], _ => rfl
  | c :: rest, e => by
    rw [Condition.listNormal, List.map_cons, truth_normal rows c e, truths_normal rows rest e,
      Condition.listTruth]

theorem admits_normal (rows : ∀ e v t f f', R.rows e v t f = R.rows e v t f') :
    (filter : Option Condition) → ∀ e,
      Condition.admits R e (Condition.optionNormal filter) = Condition.admits R e filter
  | none, _ => rfl
  | some c, e => by
    rw [Condition.optionNormal, Condition.admits, Condition.admits, truth_normal rows c e]

theorem values_normal (rows : ∀ e v t f f', R.rows e v t f = R.rows e v t f') :
    (q : Subquery) → ∀ e, q.normal.values R e = q.values R e
  | .select value label source filter, e => by
    have admitted : (fun row => Condition.admits R row (Condition.optionNormal filter)) =
        fun row => Condition.admits R row filter :=
      funext (admits_normal rows filter)
    rw [Subquery.normal, Subquery.values, Subquery.values, admitted,
      rows e value source (Condition.optionNormal filter) filter]
  | .verbatim _, _ => rfl

end

end Normal

end PooledSql.Sql
