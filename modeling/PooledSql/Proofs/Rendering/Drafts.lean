import Mathlib.Algebra.GroupWithZero.Nat
import PooledSql.Proofs.Rendering.Symbols

/-!
# Drafts

What is written for a tree, with numbers in place of the names that conditions on existence take, so
that it is known where such a condition begins and ends, and what its name is. A draft is put together
from plain pieces and from such conditions. It tells how many names it takes, and what is written for
it once it is known how many are taken before. Every tree has one, also a tree with scalar sub-queries,
lists of conditions and text of another hand.

Left operands occur in a draft as often as they are written: not at all over an empty list, and once
for each member where a list becomes a chain of comparisons, with names of its own each time.

Results:
* `pieces_append`, `pieces_emulated`: how what is written for a draft is put together.
* `realizes_predicate`, `realizes_query`: a tree is encoded as its draft says.
-/

namespace PooledSql

namespace Sql

/-- The name of a number. -/
def nameOf (number : Nat) : String := "q" ++ toString number

/-- A part of what is written, with numbers for names. -/
inductive Mark
  | piece (p : Piece)
  /-- What a condition on existence begins with, up to its sub-query. -/
  | enter (negated : Bool) (number : Nat)
  /-- The name that is given to the sub-query of a condition, with the word in front of it. -/
  | given (number : Nat)
  /-- A reference to the values that go by the name. -/
  | used (number : Nat)
  /-- The parenthesis that a condition on existence ends with. -/
  | leave (number : Nat)
deriving DecidableEq, Repr

/-- The pieces of a mark. -/
def Mark.pieces : Mark → List Piece
  | .piece p => [p]
  | .enter negated _ => existencePieces negated
  | .given number => words ["AS"] ++ [.name (nameOf number)]
  | .used number => reference (nameOf number) valueAlias
  | .leave _ => [.sign ")"]

/-- Pieces without names that are taken. -/
def plainMarks (pieces : List Piece) : List Mark := pieces.map .piece

/-- What is between `WHERE` and the comparison of a condition on existence. -/
def filterOpening : Quantifier → List Piece
  | .some => []
  | .all => [.sign "("]

/-- What is behind the comparison of a condition on existence. -/
def filterClosing : Quantifier → List Piece
  | .some => []
  | .all => .sign ")" :: .blank :: words ["IS", "NOT"] ++ [.word "TRUE"]

/-- What is to be written, whatever names are taken before. -/
inductive Draft
  | plain (pieces : List Piece)
  /-- One part, and then another one. -/
  | append (first second : Draft)
  /-- A comparison with the members of a sub-query, as a condition on existence. -/
  | emulated (relation : Relation) (quantifier : Quantifier) (lhs members : Draft)

instance : Append Draft := ⟨.append⟩

namespace Draft

/-- How many names it takes. -/
def demand : Draft → Nat
  | .plain _ => 0
  | .append first second => first.demand + second.demand
  | .emulated _ _ lhs members => members.demand + lhs.demand + 1

/-- What is written for it if so many names are taken before. A condition on existence takes the next
name, before its sub-query and its left operand do. -/
def marks : Draft → Nat → List Mark
  | .plain pieces, _ => plainMarks pieces
  | .append first second, taken => first.marks taken ++ second.marks (taken + first.demand)
  | .emulated relation quantifier lhs members, taken =>
    [.enter (quantifier == .all) (taken + 1)] ++ members.marks (taken + 1) ++
      plainMarks [.sign ")", .blank] ++ [.given (taken + 1)] ++
      plainMarks (connective "WHERE" ++ filterOpening quantifier) ++
      lhs.marks (taken + 1 + members.demand) ++ plainMarks (relationPieces relation) ++
      [.used (taken + 1)] ++ plainMarks (filterClosing quantifier) ++ [.leave (taken + 1)]

/-- The pieces that are written for it. -/
def pieces (x : Draft) (taken : Nat) : List Piece := (x.marks taken).flatMap Mark.pieces

/-- A draft between plain pieces. -/
def around (x : Draft) (before after : List Piece) : Draft := .plain before ++ x ++ .plain after

/-- Two drafts with plain pieces in front, between and behind. -/
def pair (x : Draft) (before between : List Piece) (y : Draft) (after : List Piece) : Draft :=
  x.around before between ++ y.around [] after

/-- Drafts with a separator between them. -/
def joined (separator : List Piece) : List Draft → Draft
  | [] => .plain []
  | [x] => x
  | x :: rest => x ++ .plain separator ++ joined separator rest

/-- The pieces that are written for each of some drafts. -/
def listPieces : List Draft → Nat → List (List Piece)
  | [], _ => []
  | x :: rest, taken => x.pieces taken :: listPieces rest (taken + x.demand)

/-- How many names some drafts take. -/
def listDemand (xs : List Draft) : Nat := (xs.map demand).sum

theorem flatMap_plainMarks (pieces : List Piece) :
    (plainMarks pieces).flatMap Mark.pieces = pieces := by
  rw [plainMarks, List.flatMap_map]
  exact List.flatMap_singleton' pieces

section Pieces

variable {taken : Nat} {x y : Draft} {before between after : List Piece}

@[simp]
theorem pieces_plain (pieces : List Piece) : (plain pieces).pieces taken = pieces :=
  flatMap_plainMarks pieces

@[simp]
theorem demand_plain (pieces : List Piece) : (plain pieces).demand = 0 := rfl

/-- Of two drafts in a row the second takes names from where the first ended. -/
@[simp]
theorem pieces_append : (x ++ y).pieces taken = x.pieces taken ++ y.pieces (taken + x.demand) :=
  List.flatMap_append

@[simp]
theorem demand_append : (x ++ y).demand = x.demand + y.demand := rfl

@[simp]
theorem pieces_around :
    (x.around before after).pieces taken = before ++ x.pieces taken ++ after := by
  simp [around]

@[simp]
theorem demand_around : (x.around before after).demand = x.demand := by
  simp [around]

@[simp]
theorem pieces_pair : (x.pair before between y after).pieces taken =
    before ++ x.pieces taken ++ between ++ y.pieces (taken + x.demand) ++ after := by
  simp [pair]

@[simp]
theorem demand_pair : (x.pair before between y after).demand = x.demand + y.demand := by
  simp [pair]

/-- What an emulation is spelled as, once names before it are taken. -/
theorem pieces_emulated (relation : Relation) (quantifier : Quantifier) (lhs members : Draft) :
    (emulated relation quantifier lhs members).pieces taken =
      existencePieces (quantifier == .all) ++ members.pieces (taken + 1) ++
        labelPieces (nameOf (taken + 1)) ++ filterOpening quantifier ++
        lhs.pieces (taken + 1 + members.demand) ++ relationPieces relation ++
        reference (nameOf (taken + 1)) valueAlias ++ filterClosing quantifier ++ [.sign ")"] := by
  simp [pieces, marks, Mark.pieces, flatMap_plainMarks, labelPieces, connective]

theorem pieces_joined (separator : List Piece) (xs : List Draft) :
    (joined separator xs).pieces taken = separated separator (listPieces xs taken) := by
  induction xs generalizing taken with
  | nil => simp [joined, listPieces, separated]
  | cons x rest ih =>
    cases rest with
    | nil => simp [joined, listPieces, separated]
    | cons y more =>
      have later := @ih (taken + x.demand)
      simp only [listPieces] at later ⊢
      simp [joined, later, separated]

theorem demand_joined (separator : List Piece) (xs : List Draft) :
    (joined separator xs).demand = listDemand xs := by
  induction xs with
  | nil => rfl
  | cons x rest ih =>
    cases rest with
    | nil => simp [joined, listDemand]
    | cons y more =>
      simp [joined, ih, listDemand]

end Pieces

end Draft

/-! ## The drafts of trees -/

open Symbols Draft

/-- The draft of a comparison with the members of a list, given that of the left operand. -/
def valuesDraft (d : Dialect) (relation : Relation) (quantifier : Quantifier) (lhs : Draft)
    (members : List Value) : Draft :=
  if members.isEmpty then .plain ((vacuous quantifier).pieces d)
  else
    match membership? relation quantifier with
    | some negated => lhs.around [] (membershipPieces negated ++ valueList d members ++ [.sign ")"])
    | none =>
      let parts := members.map fun v => lhs.around [] (relationPieces relation ++ Piece.literal d v)
      (joined (connective (connectiveWord quantifier)) parts).around [.sign "("] [.sign ")"]

/-- The draft of a comparison with the members of a sub-query. -/
def queryDraft (d : Dialect) (relation : Relation) (quantifier : Quantifier) (lhs members : Draft) :
    Draft :=
  match membership? relation quantifier with
  | some negated => lhs.pair [] (membershipPieces negated) members [.sign ")"]
  | none =>
    if d.hasQuantifiedSubquery then
      lhs.pair [] (relationPieces relation ++ words [quantifierWord quantifier] ++ [.sign "("])
        members [.sign ")"]
    else .emulated relation quantifier lhs members

mutual

/-- The draft of a scalar. -/
def Scalar.draft (d : Dialect) : Scalar → Draft
  | .column c => .plain ((Operand.column c).pieces d)
  | .literal v => .plain (Piece.literal d v)
  | .subquery q => (Query.draft d scalarAlias q).around [.sign "("] [.sign ")"]
  | .verbatim text _ => .plain [.verbatim text]

/-- The draft of a sub-query whose values go by `label`. -/
def Query.draft (d : Dialect) (label : String) : Query → Draft
  | .select source value filter =>
    (Scalar.draft d value).pair (words ["SELECT"]) (fromPieces label source)
      (Predicate.optionDraft d filter) []
  | .verbatim text _ => .plain [.verbatim (text.replace "\x7balias\x7d" label)]

/-- The draft of a comparison with a collection, given that of the left operand. -/
def Collective.draft (d : Dialect) (relation : Relation) (lhs : Draft) : Collective → Draft
  | .values quantifier members => valuesDraft d relation quantifier lhs members
  | .query quantifier members =>
    queryDraft d relation quantifier lhs (Query.draft d valueAlias members)

/-- The draft of a predicate. -/
def Predicate.draft (d : Dialect) : Predicate → Draft
  | .compare relation lhs rhs =>
    (Scalar.draft d lhs).pair [] (relationPieces relation) (Scalar.draft d rhs) []
  | .collective relation lhs rhs => Collective.draft d relation (Scalar.draft d lhs) rhs
  | .all parts =>
    (joined (connective "AND") (Predicate.listDraft d parts)).around [.sign "("] [.sign ")"]
  | .verbatim text _ => .plain [.verbatim text]

/-- The draft of a `WHERE`, if there is a filter. -/
def Predicate.optionDraft (d : Dialect) : Option Predicate → Draft
  | none => .plain []
  | some p => (Predicate.draft d p).around (connective "WHERE") []

/-- The drafts of some predicates. -/
def Predicate.listDraft (d : Dialect) : List Predicate → List Draft
  | [] => []
  | p :: rest => Predicate.draft d p :: Predicate.listDraft d rest

end

/-! ## What is encoded is what the draft says -/

/-- Whatever names are taken before, what is written has the pieces of the draft and takes as many
names as the draft does. -/
def Realizes {α : Type} (pieces : α → List Piece) (writing : Naming α) (x : Draft) : Prop :=
  ∀ taken, pieces (writing.run taken).1 = x.pieces taken ∧
    (writing.run taken).2 = taken + x.demand

/-- The same for some drafts, one after the other. -/
def RealizesAll (d : Dialect) (writing : Naming (List Condition)) (xs : List Draft) : Prop :=
  ∀ taken, Condition.listPieces d (writing.run taken).1 = listPieces xs taken ∧
    (writing.run taken).2 = taken + listDemand xs

section Rules

variable {α β γ : Type} {piecesA : α → List Piece} {piecesB : β → List Piece}
  {piecesC : γ → List Piece} {A : Naming α} {B : Naming β} {x y : Draft}

theorem realizes_pure {a : α} {pieces : List Piece} (same : piecesA a = pieces) :
    Realizes piecesA (pure a) (.plain pieces) :=
  fun _ => ⟨same.trans (pieces_plain pieces).symm, rfl⟩

theorem realizes_around {f : α → γ} {before after : List Piece} (hA : Realizes piecesA A x)
    (same : ∀ a, piecesC (f a) = before ++ piecesA a ++ after) :
    Realizes piecesC (do return f (← A)) (x.around before after) := by
  intro taken
  obtain ⟨written, next⟩ := hA taken
  rw [pieces_around, demand_around, ← written]
  exact ⟨same _, next⟩

theorem realizes_pair {f : α → β → γ} {before between after : List Piece}
    (hA : Realizes piecesA A x) (hB : Realizes piecesB B y)
    (same : ∀ a b, piecesC (f a b) =
      before ++ piecesA a ++ between ++ piecesB b ++ after) :
    Realizes piecesC (do let a ← A; return f a (← B)) (x.pair before between y after) := by
  intro taken
  obtain ⟨first, next⟩ := hA taken
  obtain ⟨second, last⟩ := hB (taken + x.demand)
  rw [pieces_pair, demand_pair, ← first, ← second, ← Nat.add_assoc, ← last, ← next]
  exact ⟨same _ _, rfl⟩

theorem realizesAll_cons {d : Dialect} {A : Naming Condition} {B : Naming (List Condition)}
    {xs : List Draft} (hA : Realizes (Condition.pieces d) A x) (hB : RealizesAll d B xs) :
    RealizesAll d (do let c ← A; return c :: (← B)) (x :: xs) := by
  intro taken
  obtain ⟨first, next⟩ := hA taken
  obtain ⟨second, last⟩ := hB (taken + x.demand)
  rw [listPieces, listDemand, List.map_cons, List.sum_cons, ← listDemand, ← first, ← second,
    ← Nat.add_assoc, ← last, ← next]
  exact ⟨rfl, rfl⟩

/-- Conditions with a word between them, in parentheses. -/
theorem realizes_chain {d : Dialect} {A : Naming (List Condition)} {xs : List Draft} {w : String}
    {f : List Condition → Condition} (hA : RealizesAll d A xs)
    (same : ∀ parts, (f parts).pieces d =
      parenthesized (separated (connective w) (Condition.listPieces d parts))) :
    Realizes (Condition.pieces d) (do return f (← A))
      ((joined (connective w) xs).around [.sign "("] [.sign ")"]) := by
  intro taken
  obtain ⟨written, next⟩ := hA taken
  rw [pieces_around, demand_around, pieces_joined, demand_joined, ← written]
  exact ⟨same _, next⟩

/-- The left operand is written anew for each member. -/
theorem realizesAll_comparisons {d : Dialect} {lhs : Naming Operand} (relation : Relation)
    (members : List Value) (hl : Realizes (Operand.pieces d) lhs x) :
    RealizesAll d (members.mapM fun v => do return .compare relation (← lhs) (.literal v))
      (members.map fun v => x.around [] (relationPieces relation ++ Piece.literal d v)) := by
  induction members with
  | nil => exact fun taken => ⟨rfl, rfl⟩
  | cons v rest ih =>
    rw [List.mapM_cons, List.map_cons]
    refine realizesAll_cons (realizes_around hl fun l => ?_) ih
    simp [Condition.pieces, Operand.pieces]

/-- A comparison with a list is written as its draft, and takes no name of its own. -/
theorem realizes_encodeValues {d : Dialect} {lhs : Naming Operand} (relation : Relation)
    (quantifier : Quantifier) (members : List Value) (hl : Realizes (Operand.pieces d) lhs x) :
    Realizes (Condition.pieces d) (encodeValues relation quantifier lhs members)
      (valuesDraft d relation quantifier x members) := by
  unfold encodeValues valuesDraft
  split
  · exact realizes_pure rfl
  · cases membership? relation quantifier with
    | some negated =>
      refine realizes_around hl fun l => ?_
      simp [Condition.pieces]
    | none =>
      exact realizes_chain (realizesAll_comparisons relation members hl) fun parts => by
        cases quantifier <;> rfl

theorem pieces_existence (d : Dialect) (relation : Relation) (quantifier : Quantifier)
    (lhs : Operand) (members : Subquery) (label : String) :
    (existence members label (.compare relation lhs (.member label)) quantifier).pieces d =
      existencePieces (quantifier == .all) ++ members.pieces d ++ labelPieces label ++
        filterOpening quantifier ++ lhs.pieces d ++ relationPieces relation ++
        reference label valueAlias ++ filterClosing quantifier ++ [.sign ")"] := by
  have once : (Quantifier.some == .all) = false ∧ (Quantifier.all == .all) = true := ⟨rfl, rfl⟩
  cases quantifier <;>
    simp [existence, Condition.pieces, Operand.pieces, filterOpening, filterClosing, parenthesized,
      once]

/-- A comparison with a query is written as its draft, in both dialects. -/
theorem realizes_encodeQuery {d : Dialect} {lhs : Naming Operand} {members : Naming Subquery}
    (relation : Relation) (quantifier : Quantifier) (hl : Realizes (Operand.pieces d) lhs x)
    (hm : Realizes (Subquery.pieces d) members y) :
    Realizes (Condition.pieces d) (encodeQuery d relation quantifier lhs members)
      (queryDraft d relation quantifier x y) := by
  unfold encodeQuery queryDraft
  cases membership? relation quantifier with
  | some negated =>
    refine realizes_pair hl hm fun l m => ?_
    simp [Condition.pieces]
  | none =>
    dsimp only
    split
    · refine realizes_pair hl hm fun l m => ?_
      cases quantifier <;> simp [Condition.pieces, quantifierWord, parenthesized]
    · intro taken
      -- the name is taken first, and the sub-query is written before the left operand
      obtain ⟨first, next⟩ := hm (taken + 1)
      obtain ⟨second, last⟩ := hl (taken + 1 + y.demand)
      rw [pieces_emulated, ← first, ← second, ← next]
      refine ⟨pieces_existence .., ?_⟩
      show (lhs.run (members.run (taken + 1)).2).2 = taken + (y.demand + x.demand + 1)
      rw [next, last]
      omega

end Rules

section Trees

variable (d : Dialect)

mutual

theorem realizes_scalar : (x : Scalar) →
    Realizes (Operand.pieces d) (Scalar.encode d x) (Scalar.draft d x)
  | .column c => by
    rw [Scalar.encode, Scalar.draft]
    exact realizes_pure rfl
  | .literal v => by
    rw [Scalar.encode, Scalar.draft]
    exact realizes_pure (by rw [Operand.pieces])
  | .subquery q => by
    rw [Scalar.encode, Scalar.draft]
    refine realizes_around (realizes_query scalarAlias q) fun m => ?_
    rw [Operand.pieces]
    rfl
  | .verbatim text _ => by
    rw [Scalar.encode, Scalar.draft]
    exact realizes_pure (by rw [Operand.pieces])

/-- A sub-query is encoded as its draft says. -/
theorem realizes_query (label : String) : (q : Query) →
    Realizes (Subquery.pieces d) (Query.encode d label q) (Query.draft d label q)
  | .select source value filter => by
    rw [Query.encode, Query.draft]
    refine realizes_pair (realizes_scalar value) (realizes_option filter) fun v c => ?_
    rw [Subquery.pieces, List.append_nil]
  | .verbatim text _ => by
    rw [Query.encode, Query.draft]
    exact realizes_pure (by rw [Subquery.pieces])

/-- A predicate is encoded as its draft says. -/
theorem realizes_predicate : (p : Predicate) →
    Realizes (Condition.pieces d) (Predicate.encode d p) (Predicate.draft d p)
  | .compare relation lhs rhs => by
    rw [Predicate.encode, Predicate.draft]
    refine realizes_pair (realizes_scalar lhs) (realizes_scalar rhs) fun l r => ?_
    rw [Condition.pieces, List.nil_append, List.append_nil]
  | .collective relation lhs (.values quantifier members) => by
    rw [Predicate.encode, Predicate.draft, Collective.encode, Collective.draft]
    exact realizes_encodeValues relation quantifier members (realizes_scalar lhs)
  | .collective relation lhs (.query quantifier members) => by
    rw [Predicate.encode, Predicate.draft, Collective.encode, Collective.draft]
    exact realizes_encodeQuery relation quantifier (realizes_scalar lhs)
      (realizes_query valueAlias members)
  | .all parts => by
    rw [Predicate.encode, Predicate.draft]
    exact realizes_chain (realizes_list parts) fun c => by rw [Condition.pieces]
  | .verbatim text _ => by
    rw [Predicate.encode, Predicate.draft]
    exact realizes_pure (by rw [Condition.pieces])

theorem realizes_option : (filter : Option Predicate) →
    Realizes (Condition.wherePieces d) (Predicate.encodeOption d filter)
      (Predicate.optionDraft d filter)
  | none => by
    rw [Predicate.encodeOption, Predicate.optionDraft]
    exact realizes_pure (by rw [Condition.wherePieces])
  | some p => by
    rw [Predicate.encodeOption, Predicate.optionDraft]
    refine realizes_around (realizes_predicate p) fun c => ?_
    rw [Condition.wherePieces, List.append_nil]

theorem realizes_list : (parts : List Predicate) →
    RealizesAll d (Predicate.encodeList d parts) (Predicate.listDraft d parts)
  | [] => by
    rw [Predicate.encodeList, Predicate.listDraft]
    exact fun taken => ⟨rfl, rfl⟩
  | p :: rest => by
    rw [Predicate.encodeList, Predicate.listDraft]
    exact realizesAll_cons (realizes_predicate p) (realizes_list rest)

end

end Trees

end Sql

end PooledSql
