import PooledSql.Proofs.Rendering.Literals
import PooledSql.Sql.Evaluation

/-!
# Values as their literals state them

A literal says less than the value that it was written for: a real that is no finite number is written as
`NULL`. What is read back from a text is a condition with every value as its literal states it. It has
the same symbols up to that, and to anything that takes such a real for absent it says the same.

Results:
* `symbols_stated`: the condition with stated values has the symbols of the condition, with stated values.
* `truth_stated`: it has the same truth value.
-/

namespace PooledSql.Sql

/-! ## Conditions with stated values -/

mutual

/-- The operand with every value as its literal states it. -/
def Operand.stated : Operand → Operand
  | .literal v => .literal v.stated
  | .column c => .column c
  | .member label => .member label
  | .subquery q => .subquery q.stated
  | .verbatim text => .verbatim text

/-- The condition with every value as its literal states it. -/
def Condition.stated : Condition → Condition
  | .compare relation lhs rhs => .compare relation lhs.stated rhs.stated
  | .inValues negated lhs members => .inValues negated lhs.stated (members.map Value.stated)
  | .inQuery negated lhs members => .inQuery negated lhs.stated members.stated
  | .quantified relation quantifier lhs members =>
    .quantified relation quantifier lhs.stated members.stated
  | .existing negated members label filter => .existing negated members.stated label filter.stated
  | .notTrue part => .notTrue part.stated
  | .any parts => .any (Condition.listStated parts)
  | .all parts => .all (Condition.listStated parts)
  | .verbatim text => .verbatim text

/-- Conditions with every value as its literal states it. -/
def Condition.listStated : List Condition → List Condition
  | [] => []
  | c :: rest => c.stated :: Condition.listStated rest

/-- A filter, if there is one, with every value as its literal states it. -/
def Condition.optionStated : Option Condition → Option Condition
  | none => none
  | some c => some c.stated

/-- The sub-query with every value as its literal states it. -/
def Subquery.stated : Subquery → Subquery
  | .select value label source filter =>
    .select value.stated label source (Condition.optionStated filter)
  | .verbatim text => .verbatim text

end

/-! ## Their symbols -/

/-- The symbol with the value that its literal states, if it is one. -/
def Symbol.stated : Symbol → Symbol
  | .literal v => .literal v.stated
  | .column c => .column c
  | .member label => .member label
  | .source t => .source t
  | .name s => .name s
  | .word w => .word w
  | .sign s => .sign s

/-- The symbols with the values that literals state. -/
def statedSymbols (l : List Symbol) : List Symbol := l.map Symbol.stated

@[simp]
theorem statedSymbols_nil : statedSymbols [] = [] := rfl

@[simp]
theorem statedSymbols_cons (x : Symbol) (rest : List Symbol) :
    statedSymbols (x :: rest) = x.stated :: statedSymbols rest := rfl

@[simp]
theorem statedSymbols_append (a b : List Symbol) :
    statedSymbols (a ++ b) = statedSymbols a ++ statedSymbols b := List.map_append

theorem statedSymbols_listed (members : List Value) :
    statedSymbols (Symbols.listed members) = Symbols.listed (members.map Value.stated) := by
  rw [Symbols.listed, Symbols.listed, map_separated statedSymbols_nil statedSymbols_append,
    List.map_map, List.map_map]
  rfl

theorem statedSymbols_chained (quantifier : Quantifier) (parts : List (List Symbol)) :
    statedSymbols (Symbols.chained quantifier parts) =
      Symbols.chained quantifier (parts.map statedSymbols) := by
  simp [Symbols.chained, Symbols.enclosed, map_separated statedSymbols_nil statedSymbols_append,
    Symbol.stated]

theorem statedSymbols_maybeNot (negated : Bool) (w : String) :
    statedSymbols (Symbols.maybeNot negated w) = Symbols.maybeNot negated w := by
  cases negated <;> rfl

mutual

theorem symbols_stated_operand : (o : Operand) → o.stated.symbols = statedSymbols o.symbols
  | .column _ | .member _ | .literal _ | .verbatim _ => rfl
  | .subquery q => by
    simp [Operand.stated, Operand.symbols, Symbols.enclosed, symbols_stated_subquery q, Symbol.stated]

/-- The condition with stated values has the symbols of the condition, with stated values. -/
theorem symbols_stated : (c : Condition) → c.stated.symbols = statedSymbols c.symbols
  | .compare relation lhs rhs => by
    simp [Condition.stated, Condition.symbols, Symbols.compared, Symbol.stated,
      symbols_stated_operand lhs, symbols_stated_operand rhs]
  | .inValues negated lhs members => by
    simp [Condition.stated, Condition.symbols, Symbols.membership, Symbols.enclosed, Symbol.stated,
      symbols_stated_operand lhs, statedSymbols_listed, statedSymbols_maybeNot]
  | .inQuery negated lhs members => by
    simp [Condition.stated, Condition.symbols, Symbols.membership, Symbols.enclosed, Symbol.stated,
      symbols_stated_operand lhs, symbols_stated_subquery members, statedSymbols_maybeNot]
  | .quantified relation quantifier lhs members => by
    simp [Condition.stated, Condition.symbols, Symbols.quantified, Symbols.compared,
      Symbols.enclosed, Symbol.stated, symbols_stated_operand lhs, symbols_stated_subquery members]
  | .existing negated members label filter => by
    simp [Condition.stated, Condition.symbols, Symbols.existing, Symbols.enclosed, Symbol.stated,
      Value.stated, symbols_stated_subquery members, symbols_stated filter, statedSymbols_maybeNot]
  | .notTrue part => by
    simp [Condition.stated, Condition.symbols, Symbols.notTrue, Symbols.enclosed, Symbol.stated,
      symbols_stated part]
  | .any parts => by
    rw [Condition.stated, Condition.symbols, Condition.symbols, statedSymbols_chained,
      symbols_stated_list parts]
  | .all parts => by
    rw [Condition.stated, Condition.symbols, Condition.symbols, statedSymbols_chained,
      symbols_stated_list parts]
  | .verbatim _ => rfl

theorem symbols_stated_list : (parts : List Condition) →
    Condition.listSymbols (Condition.listStated parts) =
      (Condition.listSymbols parts).map statedSymbols
  | [] => rfl
  | c :: rest => by
    rw [Condition.listStated, Condition.listSymbols, Condition.listSymbols, symbols_stated c,
      symbols_stated_list rest, List.map_cons]

theorem symbols_stated_option : (filter : Option Condition) →
    Condition.optionSymbols (Condition.optionStated filter) =
      (Condition.optionSymbols filter).map statedSymbols
  | none => rfl
  | some c => by
    rw [Condition.optionStated, Condition.optionSymbols, Condition.optionSymbols, symbols_stated c,
      Option.map_some]

theorem symbols_stated_subquery : (q : Subquery) → q.stated.symbols = statedSymbols q.symbols
  | .select value label source filter => by
    rw [Subquery.stated, Subquery.symbols, Subquery.symbols, symbols_stated_operand value,
      symbols_stated_option filter]
    cases Condition.optionSymbols filter <;> simp [Symbols.selection, Symbol.stated]
  | .verbatim _ => rfl

end

/-! ## Their truth -/

theorem isReadable_stated_operand (o : Operand) : o.stated.isReadable = o.isReadable := by
  cases o <;> rfl

mutual

theorem isReadable_stated : (c : Condition) → c.stated.isReadable = c.isReadable
  | .compare relation lhs rhs => by
    simp only [Condition.stated, Condition.isReadable, isReadable_stated_operand]
  | .inValues negated lhs members => by
    simp only [Condition.stated, Condition.isReadable, isReadable_stated_operand, List.isEmpty_map]
  | .inQuery negated lhs members => by
    simp only [Condition.stated, Condition.isReadable, isReadable_stated_operand,
      isReadable_stated_subquery members]
  | .quantified relation quantifier lhs members => by
    simp only [Condition.stated, Condition.isReadable, isReadable_stated_operand,
      isReadable_stated_subquery members]
  | .existing negated members label filter => by
    simp only [Condition.stated, Condition.isReadable, isReadable_stated_subquery members,
      isReadable_stated filter]
  | .notTrue part => isReadable_stated part
  | .any parts | .all parts => by
    rw [Condition.stated, Condition.isReadable, Condition.isReadable, isReadable_stated_list parts]
    cases parts <;> rfl
  | .verbatim _ => rfl

theorem isReadable_stated_list : (parts : List Condition) →
    Condition.listIsReadable (Condition.listStated parts) = Condition.listIsReadable parts
  | [] => rfl
  | c :: rest => by
    rw [Condition.listStated, Condition.listIsReadable, Condition.listIsReadable,
      isReadable_stated c, isReadable_stated_list rest]

theorem isReadable_stated_option : (filter : Option Condition) →
    Condition.optionIsReadable (Condition.optionStated filter) = Condition.optionIsReadable filter
  | none => rfl
  | some c => isReadable_stated c

theorem isReadable_stated_subquery : (q : Subquery) → q.stated.isReadable = q.isReadable
  | .select value label source filter => by
    rw [Subquery.stated, Subquery.isReadable, Subquery.isReadable, isReadable_stated_operand,
      isReadable_stated_option filter]
  | .verbatim _ => rfl

end

section Truth

variable {ε ν : Type} {R : Reading ε ν}

/-- To the reading, a literal stands for what it states, and the rows of a table are what they are
whatever a sub-query does with them. -/
structure Reading.KeepsStated (R : Reading ε ν) : Prop where
  literal : ∀ v, R.literal v.stated = R.literal v
  rows : ∀ e v v' t f f', R.rows e v t f = R.rows e v' t f'

mutual

theorem value_stated (keeps : R.KeepsStated) : (o : Operand) → ∀ e,
    o.stated.value R e = o.value R e
  | .column _, _ | .member _, _ | .verbatim _, _ => rfl
  | .literal v, _ => keeps.literal v
  | .subquery q, e => by rw [Operand.stated, Operand.value, Operand.value, values_stated keeps q e]

/-- With the values that literals state, a condition has the same truth value. -/
theorem truth_stated (keeps : R.KeepsStated) : (c : Condition) → ∀ e,
    c.stated.truth R e = c.truth R e
  | .compare relation lhs rhs, e => by
    rw [Condition.stated, Condition.truth, Condition.truth, value_stated keeps lhs e,
      value_stated keeps rhs e]
  | .inValues negated lhs members, e => by
    have literals : (members.map Value.stated).map R.literal = members.map R.literal := by
      rw [List.map_map]
      exact List.map_congr_left fun v _ => keeps.literal v
    rw [Condition.stated, Condition.truth, Condition.truth, value_stated keeps lhs e, literals]
  | .inQuery negated lhs members, e => by
    rw [Condition.stated, Condition.truth, Condition.truth, value_stated keeps lhs e,
      values_stated keeps members e]
  | .quantified relation quantifier lhs members, e => by
    rw [Condition.stated, Condition.truth, Condition.truth, value_stated keeps lhs e,
      values_stated keeps members e]
  | .existing negated members label filter, e => by
    have filtered : (fun v => (filter.stated.truth R (R.bind e label v)).isYes) =
        fun v => (filter.truth R (R.bind e label v)).isYes :=
      funext fun v => by rw [truth_stated keeps filter]
    rw [Condition.stated, Condition.truth, Condition.truth, values_stated keeps members e, filtered]
  | .notTrue part, e => by
    rw [Condition.stated, Condition.truth, Condition.truth, truth_stated keeps part e]
  | .any parts, e | .all parts, e => by
    rw [Condition.stated, Condition.truth, Condition.truth, truths_stated keeps parts e]
  | .verbatim _, _ => rfl

/-- Conditions with stated values are as true, where a value means what its literal states. -/
theorem truths_stated (keeps : R.KeepsStated) : (parts : List Condition) → ∀ e,
    Condition.listTruth R e (Condition.listStated parts) = Condition.listTruth R e parts
  | [], _ => rfl
  | c :: rest, e => by
    rw [Condition.listStated, Condition.listTruth, Condition.listTruth, truth_stated keeps c e,
      truths_stated keeps rest e]

theorem admits_stated (keeps : R.KeepsStated) : (filter : Option Condition) → ∀ e,
    Condition.admits R e (Condition.optionStated filter) = Condition.admits R e filter
  | none, _ => rfl
  | some c, e => by
    rw [Condition.optionStated, Condition.admits, Condition.admits, truth_stated keeps c e]

theorem values_stated (keeps : R.KeepsStated) : (q : Subquery) → ∀ e,
    q.stated.values R e = q.values R e
  | .select value label source filter, e => by
    have admitted : (fun row => Condition.admits R row (Condition.optionStated filter)) =
        fun row => Condition.admits R row filter := funext (admits_stated keeps filter)
    have valued : value.stated.value R = value.value R := funext (value_stated keeps value)
    rw [Subquery.stated, Subquery.values, Subquery.values, admitted, valued,
      keeps.rows e value.stated value source (Condition.optionStated filter) filter]
  | .verbatim _, _ => rfl

end

end Truth

end PooledSql.Sql
