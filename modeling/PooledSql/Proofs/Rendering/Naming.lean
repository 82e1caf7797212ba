import Mathlib.Data.List.Forall2
import PooledSql.Sql.Encoding

/-!
# Writings, whatever names are taken

How a predicate is written depends on how many names were taken before. Most of what is said about
the result does not: it holds at every count. Such a property is carried through a writing from its
parts, one rule for each way in which writings are put together.

Results:
* `always_bind`, `always_mapM`: a property of the parts gives one of the whole.
* `always_encodeValues`, `always_encodeQuery`: the forms that a comparison with a collection takes.
-/

namespace PooledSql.Sql

/-- Whatever names are taken, what is written has the property. -/
def Always {α : Type} (writing : Naming α) (P : α → Prop) : Prop :=
  ∀ taken, P (writing.run taken).1

section Rules

variable {α β : Type} {P : α → Prop} {Q : β → Prop}

theorem always_pure {a : α} (h : P a) : Always (pure a) P :=
  fun _ => h

/-- What always holds of a writing and of what is made of it, holds of both in a row. -/
theorem always_bind {x : Naming α} {f : α → Naming β} (hx : Always x P)
    (hf : ∀ a, P a → Always (f a) Q) : Always (x >>= f) Q := by
  intro taken
  exact hf _ (hx taken) (x.run taken).2

theorem always_mono {x : Naming α} {P' : α → Prop} (hx : Always x P) (h : ∀ a, P a → P' a) :
    Always x P' :=
  fun taken => h _ (hx taken)

theorem always_freshAlias : Always freshAlias fun _ => True :=
  fun _ => trivial

/-- What always holds of each element's writing, holds along the list. -/
theorem always_mapM {γ : Type} {f : γ → Naming β} {R : γ → β → Prop} (l : List γ)
    (h : ∀ c ∈ l, Always (f c) (R c)) : Always (l.mapM f) (List.Forall₂ R l) := by
  induction l with
  | nil => exact always_pure .nil
  | cons c rest ih =>
    rw [List.mapM_cons]
    refine always_bind (h c (by simp)) fun b hb => ?_
    refine always_bind (ih fun c' hc' => h c' (by simp [hc'])) fun bs hbs => ?_
    exact always_pure (.cons hb hbs)

end Rules

/-! ## Comparisons with a collection -/

section Collections

variable {relation : Relation} {quantifier : Quantifier} {P : Operand → Prop} {Q : Subquery → Prop}

/-- The forms of a comparison with the members of a list. -/
inductive ValuesForm (relation : Relation) (quantifier : Quantifier) (P : Operand → Prop) :
    List Value → Condition → Prop
  | vacuous : ValuesForm relation quantifier P [] (vacuous quantifier)
  | membership {negated : Bool} {lhs : Operand} {members : List Value}
      (form : membership? relation quantifier = some negated) (left : P lhs) :
      ValuesForm relation quantifier P members (.inValues negated lhs members)
  | chain {members : List Value} {parts : List Condition}
      (comparisons : List.Forall₂
        (fun v part => ∃ lhs, P lhs ∧ part = .compare relation lhs (.literal v)) members parts) :
      ValuesForm relation quantifier P members (chain quantifier parts)

/-- The forms of a comparison with the members of a sub-query. -/
inductive QueryForm (d : Dialect) (relation : Relation) (quantifier : Quantifier)
    (P : Operand → Prop) (Q : Subquery → Prop) : Condition → Prop
  | membership {negated : Bool} {lhs : Operand} {members : Subquery}
      (form : membership? relation quantifier = some negated) (left : P lhs) (right : Q members) :
      QueryForm d relation quantifier P Q (.inQuery negated lhs members)
  | quantified {lhs : Operand} {members : Subquery} (native : d.hasQuantifiedSubquery = true)
      (left : P lhs) (right : Q members) :
      QueryForm d relation quantifier P Q (.quantified relation quantifier lhs members)
  | existence {label : String} {lhs : Operand} {members : Subquery}
      (emulated : d.hasQuantifiedSubquery = false) (left : P lhs) (right : Q members) :
      QueryForm d relation quantifier P Q
        (existence members label (.compare relation lhs (.member label)) quantifier)

theorem always_encodeValues {lhs : Naming Operand} (members : List Value) (hl : Always lhs P) :
    Always (encodeValues relation quantifier lhs members)
      (ValuesForm relation quantifier P members) := by
  unfold encodeValues
  split
  · rename_i empty
    rw [List.isEmpty_iff.1 empty]
    exact always_pure .vacuous
  · split
    · rename_i form
      exact always_bind hl fun l hP => always_pure (.membership form hP)
    · refine always_bind (always_mapM members fun v _ => ?_) fun parts hparts =>
        always_pure (.chain hparts)
      exact always_bind hl fun l hP => always_pure ⟨l, hP, rfl⟩

/-- Whatever name comes next, a comparison with a query is in one of its forms. -/
theorem always_encodeQuery (d : Dialect) {lhs : Naming Operand} {members : Naming Subquery}
    (hl : Always lhs P) (hm : Always members Q) :
    Always (encodeQuery d relation quantifier lhs members)
      (QueryForm d relation quantifier P Q) := by
  unfold encodeQuery
  split
  · rename_i form
    exact always_bind hl fun l hP => always_bind hm fun m hQ =>
      always_pure (.membership form hP hQ)
  · split
    · rename_i native
      exact always_bind hl fun l hP => always_bind hm fun m hQ =>
        always_pure (.quantified native hP hQ)
    · rename_i emulated
      refine always_bind always_freshAlias fun label _ => ?_
      refine always_bind hm fun m hQ => always_bind hl fun l hP => ?_
      exact always_pure (.existence (by simpa using emulated) hP hQ)

end Collections

end PooledSql.Sql
