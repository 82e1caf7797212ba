import PooledSql.Proofs.Rendering.Readback

/-!
# Texts are unambiguous

Two predicates have the same text only if they are the same as far as they are written. For one half,
the tokens of the text are read back, and the reader finds the canonical form. For the other half,
the canonical form is itself a predicate with that text: wherever the tree and its canonical form
differ they have the same pieces, and they take the same names.

Results:
* `toSql_canon`: a predicate and its canonical form have the same text.
* `toSql_eq_iff`: two predicates have the same text exactly if they have the same canonical form.
-/

namespace PooledSql

@[simp]
theorem Scalar.isOwn_canon (x : Scalar) : x.canon.isOwn = x.isOwn := by
  cases x <;> rfl

namespace Sql

/-! ## What has the same pieces -/

section Pieces

variable (d : Dialect)

theorem literal_stated (v : Value) : Piece.literal d v.stated = Piece.literal d v := by
  cases v with
  | real x =>
    rw [Value.stated]
    split
    · rfl
    · rename_i infinite
      rw [Piece.literal, Piece.literal, if_neg infinite]
  | null | boolean | integer | text | blob => rfl

theorem encode_canon {x : Scalar} (own : x.isOwn = true) :
    Scalar.encode d x.canon = pure (Scalar.operand x.canon) :=
  encode_scalar d ((Scalar.isOwn_canon x).trans own)

theorem pieces_scalar (x : Scalar) :
    (Scalar.operand x.canon).pieces d = (Scalar.operand x).pieces d := by
  cases x with
  | literal v =>
    rw [Scalar.canon, Scalar.operand, Scalar.operand, Operand.pieces, Operand.pieces,
      literal_stated]
  | column | subquery | verbatim => rfl

theorem listPieces_compare (relation : Relation) (lhs : Operand) (members : List Value) :
    Condition.listPieces d (members.map fun v => .compare relation lhs (.literal v)) =
      members.map fun v => lhs.pieces d ++ relationPieces relation ++ Piece.literal d v := by
  induction members with
  | nil => rfl
  | cons v rest ih =>
    rw [List.map_cons, Condition.listPieces, ih, List.map_cons, Condition.pieces, Operand.pieces]

variable {d}

/-- The pieces of a comparison with a list depend on the pieces of its parts. -/
theorem pieces_valuesCondition (relation : Relation) (quantifier : Quantifier) {lhs lhs' : Operand}
    (left : lhs'.pieces d = lhs.pieces d) (members : List Value) :
    (valuesCondition relation quantifier lhs' (members.map Value.stated)).pieces d =
      (valuesCondition relation quantifier lhs members).pieces d := by
  have literals : (members.map Value.stated).map (Piece.literal d) =
      members.map (Piece.literal d) := by
    rw [List.map_map]
    exact List.map_congr_left fun v _ => literal_stated d v
  have rows : Condition.listPieces d
      ((members.map Value.stated).map fun v => .compare relation lhs' (.literal v)) =
        Condition.listPieces d (members.map fun v => .compare relation lhs (.literal v)) := by
    rw [listPieces_compare, listPieces_compare, List.map_map]
    refine List.map_congr_left fun v _ => ?_
    rw [Function.comp_apply, left, literal_stated]
  unfold valuesCondition
  rw [List.isEmpty_map]
  split
  · rfl
  · split
    · rw [Condition.pieces, Condition.pieces, valueList, valueList, left, literals]
    · cases quantifier <;> rw [chain, chain, Condition.pieces, Condition.pieces, rows]

/-- One comparison has the same pieces under `OR` as under `AND`. -/
theorem pieces_ofOne (relation : Relation) (quantifier : Quantifier) (lhs : Operand) (v : Value) :
    (valuesCondition relation (quantifier.ofOne relation) lhs [v]).pieces d =
      (valuesCondition relation quantifier lhs [v]).pieces d := by
  cases relation <;> cases quantifier <;> rfl

end Pieces

/-! ## Writings with the same pieces -/

/-- Whatever names are taken, the writings have the same pieces and take equally many names. -/
def WritesAlike {α : Type} (pieces : α → List Piece) (x y : Naming α) : Prop :=
  ∀ taken, pieces (x.run taken).1 = pieces (y.run taken).1 ∧ (x.run taken).2 = (y.run taken).2

section Writings

variable {α β : Type} {pieces : α → List Piece} {pieces' : β → List Piece}

theorem writesAlike_pure {a b : α} (same : pieces a = pieces b) :
    WritesAlike pieces (pure a) (pure b) :=
  fun _ => ⟨same, rfl⟩

theorem writesAlike_map {x y : Naming α} (h : WritesAlike pieces x y) {f g : α → β}
    (same : ∀ a b, pieces a = pieces b → pieces' (f a) = pieces' (g b)) :
    WritesAlike pieces' (x >>= fun a => pure (f a)) (y >>= fun b => pure (g b)) :=
  fun taken => ⟨same _ _ (h taken).1, (h taken).2⟩

/-- Quantified comparisons are written alike if their sides are, natively or by an emulation. -/
theorem writesAlike_encodeQuery {d : Dialect} (relation : Relation) (quantifier : Quantifier)
    {lhs lhs' : Operand} (left : lhs'.pieces d = lhs.pieces d) {members members' : Naming Subquery}
    (h : WritesAlike (Subquery.pieces d) members' members) :
    WritesAlike (Condition.pieces d) (encodeQuery d relation quantifier (pure lhs') members')
      (encodeQuery d relation quantifier (pure lhs) members) := by
  unfold encodeQuery
  cases membership? relation quantifier with
  | some negated =>
    refine writesAlike_map h fun m m' same => ?_
    simp only [Condition.pieces, left, same]
  | none =>
    cases d.hasQuantifiedSubquery with
    | true =>
      refine writesAlike_map h fun m m' same => ?_
      simp only [Condition.pieces, left, same]
    | false =>
      intro taken
      -- the name is taken before the members are written
      obtain ⟨same, after⟩ := h (taken + 1)
      have emulated {m m' : Subquery} (same : m'.pieces d = m.pieces d) (label : String) :
          (existence m' label (.compare relation lhs' (.member label)) quantifier).pieces d =
            (existence m label (.compare relation lhs (.member label)) quantifier).pieces d := by
        cases quantifier <;> simp only [existence, Condition.pieces, left, same]
      exact ⟨emulated same _, after⟩

end Writings

/-! ## Canonical forms have the same text -/

section Trees

variable {d : Dialect}

mutual

theorem writesAlike_query (label : String) : (q : Query) → q.isOwn = true →
    WritesAlike (Subquery.pieces d) (Query.encode d label q.canon) (Query.encode d label q)
  | .select source value filter, own => by
    simp only [Query.isOwn, Bool.and_eq_true] at own
    rw [Query.canon, Query.encode, Query.encode, encode_scalar d own.1, encode_canon d own.1]
    refine writesAlike_map (writesAlike_option filter own.2) fun c c' same => ?_
    have from' : fromPieces label source.canon = fromPieces label source := rfl
    rw [Subquery.pieces, Subquery.pieces, pieces_scalar, from', same]
  | .verbatim _ _, own => by simp [Query.isOwn] at own

/-- Whatever names are taken, the predicate and its canonical form have the same pieces. -/
theorem writesAlike_predicate : (p : Predicate) → p.isOwn = true →
    WritesAlike (Condition.pieces d) (Predicate.encode d p.canon) (Predicate.encode d p)
  | .compare relation lhs rhs, own => by
    simp only [Predicate.isOwn, Bool.and_eq_true] at own
    rw [Predicate.canon, Predicate.encode, Predicate.encode, encode_scalar d own.1,
      encode_scalar d own.2, encode_canon d own.1, encode_canon d own.2]
    refine writesAlike_pure ?_
    rw [Condition.pieces, Condition.pieces, pieces_scalar, pieces_scalar]
  | .collective relation lhs (.values quantifier members), own => by
    simp only [Predicate.isOwn, Bool.and_eq_true] at own
    have same := pieces_valuesCondition relation quantifier (pieces_scalar d lhs) members
    rw [Predicate.canon, Predicate.encode, Collective.encode, encode_scalar d own.1,
      encodeValues_pure]
    -- the canonical form depends on how many members there are
    match members with
    | [] =>
      rw [List.map_nil, Predicate.overValues_nil, Predicate.encode]
      exact writesAlike_pure rfl
    | [v] =>
      rw [List.map_cons, List.map_nil, Predicate.overValues_one, Predicate.encode,
        Collective.encode, encode_canon d own.1, encodeValues_pure]
      exact writesAlike_pure ((pieces_ofOne _ _ _ _).trans same)
    | v :: next :: more =>
      rw [List.map_cons, List.map_cons, Predicate.overValues_more, Predicate.encode,
        Collective.encode, encode_canon d own.1, encodeValues_pure]
      exact writesAlike_pure same
  | .collective relation lhs (.query quantifier members), own => by
    simp only [Predicate.isOwn, Collective.isOwn, Bool.and_eq_true] at own
    rw [Predicate.canon, Predicate.encode, Predicate.encode, Collective.encode, Collective.encode,
      encode_scalar d own.1, encode_canon d own.1]
    exact writesAlike_encodeQuery relation quantifier (pieces_scalar d lhs)
      (writesAlike_query valueAlias members own.2)
  | .all _, own => by simp [Predicate.isOwn] at own
  | .verbatim _ _, own => by simp [Predicate.isOwn] at own

theorem writesAlike_option : (filter : Option Predicate) → Predicate.optionIsOwn filter = true →
    WritesAlike (Condition.wherePieces d) (Predicate.encodeOption d (Predicate.optionCanon filter))
      (Predicate.encodeOption d filter)
  | none, _ => by
    rw [Predicate.optionCanon]
    exact writesAlike_pure rfl
  | some p, own => by
    rw [Predicate.optionCanon, Predicate.encodeOption, Predicate.encodeOption]
    refine writesAlike_map (writesAlike_predicate p own) fun c c' same => ?_
    rw [Condition.wherePieces, Condition.wherePieces, same]

end

end Trees

/-- A predicate and its canonical form have the same text. -/
theorem toSql_canon {p : Predicate} (own : p.isOwn = true) (d : Dialect) :
    toSql d p.canon = toSql d p := by
  rw [toSql, toSql, condition, condition, (writesAlike_predicate p own 0).1]

/-! ## Texts are read back -/

/-- The tokens of a text are read as the canonical form of its predicate, at every depth that is
enough for the predicate. -/
theorem readPredicate_toSql {p : Predicate} (own : p.isOwn = true) (d : Dialect) {n : Nat}
    (deep : p.depth < n) :
    (tokens d (toSql d p)).toOption.bind (Readback.readPredicate n) = some (p.canon, []) := by
  have ends : Readback.Ends [] := by rintro t ⟨⟩
  have read := Readback.reads_predicate (d := d) p own n deep 0 [] ends
  rw [List.append_nil] at read
  rw [tokens_toSql own]
  exact read

/-- Two predicates have the same text exactly if they have the same canonical form. -/
theorem toSql_eq_iff {p q : Predicate} (hp : p.isOwn = true) (hq : q.isOwn = true) (d : Dialect) :
    toSql d p = toSql d q ↔ p.canon = q.canon := by
  constructor
  · intro same
    -- both are read with a depth that is enough for either
    have left := readPredicate_toSql hp d (Nat.lt_succ_of_le (Nat.le_max_left p.depth q.depth))
    have right := readPredicate_toSql hq d (Nat.lt_succ_of_le (Nat.le_max_right p.depth q.depth))
    rw [same, right] at left
    exact (Prod.mk.inj (Option.some.inj left)).1.symm
  · intro same
    rw [← toSql_canon hp, ← toSql_canon hq, same]

/-- Dearer than all goods of which fewer than `v` are in stock, written with some or all of a list
that has only `v`; the columns of the goods get the identities from `id` on. -/
def dearerThanScarce (id : Nat) (quantifier : Quantifier) (v : Value) : Predicate :=
  .collective .greater (.column ⟨⟨1⟩, "offers", "price"⟩)
    (.query .all
      (.select ⟨"goods", "g", [⟨⟨id⟩, "g", "price"⟩, ⟨⟨id + 1⟩, "g", "stock"⟩]⟩
        (.column ⟨⟨id⟩, "g", "price"⟩)
        (some (.collective .less (.column ⟨⟨id + 1⟩, "g", "stock"⟩) (.values quantifier [v])))))

/-- Neither the identities nor the quantifier show, but an integer is told from a text. -/
theorem toSql_eq_iff_dearerThanScarce :
    (∀ id quantifier v, (dearerThanScarce id quantifier v).isOwn = true) ∧
      toSql .sqlite (dearerThanScarce 2 .some (.integer 5)) =
        toSql .sqlite (dearerThanScarce 7 .all (.integer 5)) ∧
      toSql .sqlite (dearerThanScarce 2 .some (.integer 5)) ≠
        toSql .sqlite (dearerThanScarce 2 .some (.text "5")) := by
  have own (id : Nat) (quantifier : Quantifier) (v : Value) :
      (dearerThanScarce id quantifier v).isOwn = true := rfl
  refine ⟨own, (toSql_eq_iff (own _ _ _) (own _ _ _) .sqlite).2 rfl, fun same => ?_⟩
  have canon := (toSql_eq_iff (own _ _ _) (own _ _ _) .sqlite).1 same
  simp [dearerThanScarce, Predicate.canon, Query.canon, Predicate.optionCanon, Predicate.overValues,
    Value.stated] at canon

end Sql

end PooledSql
