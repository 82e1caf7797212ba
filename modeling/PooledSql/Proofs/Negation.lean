import Mathlib.Order.Defs.LinearOrder
import PooledSql.Proofs.ListComparison

/-!
# Negated comparisons with a list

To deny that a value stands in a relation to some member of a list is to say that it stands in the
negated relation to all of them, and to deny it of all is to say so of some. In SQL this is a law
of three truth values, and it has to hold between texts of different forms: the negation of an `IN`
is a `NOT IN` or, from the other side, a chain of comparisons, and that of a constant is another
constant.

A relation and its negation are opposite as soon as values that are present are in a total order; no
order is needed for equality, where `<>` is the negation of `=` anyway.

Results:
* `overList_dual`: what the opposite comparisons say together is the negation of what the comparisons
  say together.
* `listText_negate`: so it is for what is written for them, in any two dialects.
-/

namespace PooledSql

/-- The other one of some and all. -/
def Quantifier.dual : Quantifier → Quantifier
  | .some => .all
  | .all => .some

namespace Contents

variable {V : Type} {w : Contents V}

/-- Values that are present compare as their places in a total order do. Different values may have
one place, as texts may under a collation. -/
def OrderedBy {K : Type} [LinearOrder K] (w : Contents V) (place : V → K) : Prop :=
  ∀ relation a b, w.related relation a b = relation.holds (Ord.compare (place a) (place b))

/-- One relation is the negation of the other, and both are unknown alike. -/
def Opposite (w : Contents V) (relation opposite : Relation) : Prop :=
  ∀ a b, w.compare opposite a b = (w.compare relation a b).neg

theorem opposite_equal (w : Contents V) : w.Opposite .equal .notEqual := w.compare_notEqual

/-- In an order, every relation has its negation for an opposite. -/
theorem OrderedBy.opposite {K : Type} [LinearOrder K] {place : V → K} (ordered : w.OrderedBy place)
    (relation : Relation) : w.Opposite relation relation.negate := by
  intro a b
  cases a with
  | none => rfl
  | some a =>
    cases b with
    | none => rfl
    | some b =>
      show Sql.Truth.ofBool (w.related relation.negate a b) =
        (Sql.Truth.ofBool (w.related relation a b)).neg
      rw [ordered, ordered, Relation.holds_negate, Sql.Truth.neg_ofBool]

/-- De Morgan's law for a comparison with a list. Over no members it is the law that exchanges the
two constants. -/
theorem overList_dual {relation opposite : Relation} (h : w.Opposite relation opposite)
    (quantifier : Quantifier) (a : Option V) (members : List Value) :
    w.overList opposite quantifier.dual a members =
      (w.overList relation quantifier a members).neg := by
  have each : (members.map w.literal).map (w.compare opposite a) =
      ((members.map w.literal).map (w.compare relation a)).map Sql.Truth.neg := by
    simp only [List.map_map]
    exact List.map_congr_left fun v _ => h a (w.literal v)
  rw [← Sql.across_eq_overList, ← Sql.across_eq_overList]
  cases quantifier with
  | some =>
    show Sql.Truth.all ((members.map w.literal).map (w.compare opposite a)) = _
    rw [each, ← Sql.Truth.neg_any]
    rfl
  | all =>
    show Sql.Truth.any ((members.map w.literal).map (w.compare opposite a)) = _
    rw [each, ← Sql.Truth.neg_all]
    rfl

end Contents

namespace Sql

/-- The condition that a text without sub-queries is read as from its tokens alone, where names of
columns mean what `resolve` says. -/
def readText (resolve : String → String → Column) (d : Dialect) (text : String) :
    Option Condition :=
  (symbolsOf resolve d text).bind read

section Written

variable {lhs : Scalar} {resolve : String → String → Column}

/-- What is written for a comparison with a list is read as a condition that says what the comparisons
with the members say together. -/
theorem readText_write (b : Buffer) (relation : Relation) (quantifier : Quantifier)
    (own : lhs.isOwn = true) (members : List Value)
    (resolved : ∀ c, lhs = .column c → resolve c.table c.name = c) :
    ∃ c, readText resolve b.dialect
        (b.write (.collective relation lhs (.values quantifier members))).1 = some c ∧
      ∀ {V : Type} (w : Contents V) (s : Surroundings V),
        c.truth w.reading s = w.overList relation quantifier (lhs.meaning w s.columns) members := by
  have readable : (listComparison relation quantifier lhs members).isReadable = true :=
    readable_listComparison own
  have plain : ∀ x ∈ (listComparison relation quantifier lhs members).symbols,
      x.IsPlain resolve := by
    rw [symbols_listComparison]
    exact plain_valuesSymbols _ _ (plain_scalar resolved)
      (List.forall_mem_map.2 fun v _ => v.stated_stated)
  refine ⟨(listComparison relation quantifier lhs members).normal, ?_, fun w s => ?_⟩
  · rw [write_listComparison b own, readText, symbolsOf, Condition.text, tokens_spell readable]
    show (readSymbols resolve _ _).bind read = _
    rw [readSymbols_tokens plain (length_le_tokens plain), Option.bind_some, read_symbols readable]
  · rw [truth_normal (fun _ _ _ _ _ => rfl), truth_listComparison own]

/-- What is written for the negated relation and the other quantifier has the negated truth value,
whatever the members are, whichever of them are absent, and whatever the value on the left is. In
particular, `NOT IN` is the negation of `IN`, and for that values need not be ordered. The two texts
may stand in different buffers, and in different dialects. -/
theorem listText_negate (b b' : Buffer) (relation : Relation) (quantifier : Quantifier)
    (own : lhs.isOwn = true) (members : List Value)
    (resolved : ∀ c, lhs = .column c → resolve c.table c.name = c) :
    (∃ c c', readText resolve b.dialect
          (b.write (.collective relation lhs (.values quantifier members))).1 = some c ∧
        readText resolve b'.dialect
          (b'.write (.collective relation.negate lhs (.values quantifier.dual members))).1 =
            some c' ∧
        ∀ {V K : Type} [LinearOrder K] (w : Contents V) {place : V → K}, w.OrderedBy place →
          ∀ s, c'.truth w.reading s = (c.truth w.reading s).neg) ∧
      ∃ c c', readText resolve b.dialect (b.write (.predicate (.inValues lhs members))).1 = some c ∧
        readText resolve b'.dialect (b'.write (.predicate (.notInValues lhs members))).1 = some c' ∧
        ∀ {V : Type} (w : Contents V) (s : Surroundings V),
          c'.truth w.reading s = (c.truth w.reading s).neg := by
  constructor
  · obtain ⟨c, reads, truth⟩ := readText_write b relation quantifier own members resolved
    obtain ⟨c', reads', truth'⟩ :=
      readText_write b' relation.negate quantifier.dual own members resolved
    refine ⟨c, c', reads, reads', fun w place ordered s => ?_⟩
    rw [truth, truth']
    exact Contents.overList_dual (ordered.opposite relation) quantifier _ members
  · obtain ⟨c, reads, truth⟩ := readText_write b .equal .some own members resolved
    obtain ⟨c', reads', truth'⟩ := readText_write b' .notEqual .all own members resolved
    refine ⟨c, c', reads, reads', fun w s => ?_⟩
    rw [truth, truth']
    exact Contents.overList_dual w.opposite_equal .some _ members

/-- A total that exceeds one of 7, an absent value and an infinite one, and one that is at most all of
them. A total of 9 does the one and not the other, and for one of 5 both are unknown. -/
theorem listText_negate_orders :
    let lhs : Scalar := .column ⟨⟨1⟩, "orders", "total"⟩
    let members : List Value := [.integer 7, .null, .real ⟨0x7ff0000000000000⟩]
    let resolve (table name : String) : Column := ⟨⟨1⟩, table, name⟩
    lhs.isOwn = true ∧ (∀ c, lhs = .column c → resolve c.table c.name = c) ∧
      payments.OrderedBy id ∧
      ∃ c c', readText resolve .sqlite ((Buffer.mk .sqlite 0 "").write
          (.collective .greater lhs (.values .some members))).1 = some c ∧
        readText resolve .postgres ((Buffer.mk .postgres 0 "").write
          (.collective .lessOrEqual lhs (.values .all members))).1 = some c' ∧
        c.truth payments.reading ⟨fun _ => some 9, fun _ => none⟩ = .yes ∧
        c'.truth payments.reading ⟨fun _ => some 9, fun _ => none⟩ = .no ∧
        c'.truth payments.reading ⟨fun _ => some 5, fun _ => none⟩ = .unknown := by
  intro lhs members resolve
  have own : lhs.isOwn = true := rfl
  have resolved : ∀ c, lhs = .column c → resolve c.table c.name = c :=
    fun c same => Scalar.column.inj same ▸ rfl
  have ordered : payments.OrderedBy id := fun _ _ _ => rfl
  obtain ⟨⟨c, c', reads, reads', negated⟩, -⟩ := listText_negate (Buffer.mk .sqlite 0 "")
    (Buffer.mk .postgres 0 "") .greater .some own members resolved
  -- the text of the first one is read in one way only
  obtain ⟨same, reads'', truth⟩ :=
    readText_write (Buffer.mk .sqlite 0 "") .greater .some own members resolved
  rw [reads] at reads''
  cases reads''
  refine ⟨own, resolved, ordered, c, c', reads, reads', ?_, ?_, ?_⟩
  · rw [truth]
    decide
  · rw [negated payments ordered, truth]
    decide
  · rw [negated payments ordered, truth]
    decide

end Written

end Sql

end PooledSql
