import PooledSql.Sql.Lexer

/-!
# The shape of numbers

A number in a text is some digits, maybe a fraction, and maybe an exponent. What is written for an
integer and for a real has this shape after its sign, at any size, and reading a number from a text
takes exactly what was written if the text does not go on with more of the same.

Results:
* `isNumeral_repr`, `isNumeral_digits`: integers and reals are written in this shape.
* `spanNumber_append`: reading takes what was written.
-/

namespace PooledSql.Sql

open Number (Layout Decimal positional scientific)

/-- Nothing else than digits. -/
def AllDigits (s : List Char) : Prop := ∀ c ∈ s, c.isDigit = true

/-- Digits, maybe after a point. -/
inductive IsFraction : List Char → Prop
  | none : IsFraction []
  | point {digits : List Char} (all : AllDigits digits) : IsFraction ('.' :: digits)

/-- A power of ten, maybe of a negative number. -/
inductive IsExponent : List Char → Prop
  | none : IsExponent []
  | up {digits : List Char} (some : digits ≠ []) (all : AllDigits digits) :
      IsExponent ('e' :: digits)
  | down {digits : List Char} (some : digits ≠ []) (all : AllDigits digits) :
      IsExponent ('e' :: '-' :: digits)

/-- A number without a sign. -/
inductive IsNumeral : List Char → Prop
  | mk {whole fraction exponent : List Char} (some : whole ≠ []) (all : AllDigits whole)
      (hf : IsFraction fraction) (he : IsExponent exponent) :
      IsNumeral (whole ++ fraction ++ exponent)

theorem allDigits_append {a b : List Char} (ha : AllDigits a) (hb : AllDigits b) :
    AllDigits (a ++ b) := by
  intro c hc
  rcases List.mem_append.1 hc with h | h
  · exact ha c h
  · exact hb c h

theorem allDigits_zeros (n : Nat) : AllDigits (List.replicate n '0') := by
  intro c hc
  rw [List.eq_of_mem_replicate hc]
  rfl

theorem allDigits_zero : AllDigits ['0'] := allDigits_zeros 1

theorem allDigits_toDigits (n : Nat) : AllDigits (Nat.toDigits 10 n) :=
  fun _ hc => Nat.isDigit_of_mem_toDigits (by decide) (by decide) hc

theorem IsNumeral.exists_cons {s : List Char} (h : IsNumeral s) :
    ∃ c r, s = c :: r ∧ c.isDigit = true := by
  obtain @⟨whole, fraction, exponent, some, all, -, -⟩ := h
  obtain ⟨c, r, rfl⟩ := List.exists_cons_of_ne_nil some
  exact ⟨c, r ++ fraction ++ exponent, rfl, all c (by simp)⟩

/-! ## What is written has the shape -/

theorem isNumeral_of_allDigits {s : List Char} (some : s ≠ []) (all : AllDigits s) :
    IsNumeral s := by
  have numeral := IsNumeral.mk some all .none .none
  rwa [List.append_nil, List.append_nil] at numeral

/-- An integer is written as the digits of its absolute value, after a minus if it is negative. -/
theorem repr_int (i : Int) :
    i.repr.toList = if i < 0 then '-' :: Nat.toDigits 10 i.natAbs else Nat.toDigits 10 i.natAbs := by
  by_cases h : i < 0
  · have size : (-i).toNat = i.natAbs := by omega
    rw [Int.repr_eq_if, if_neg (by omega), if_pos h, String.toList_append, Nat.toList_repr, size]
    rfl
  · have size : i.toNat = i.natAbs := by omega
    rw [Int.repr_eq_if, if_pos (by omega), if_neg h, Nat.toList_repr, size]

theorem toString_int (i : Int) :
    (toString i).toList =
      if decide (i < 0) then '-' :: Nat.toDigits 10 i.natAbs else Nat.toDigits 10 i.natAbs := by
  rw [Int.toString_eq_repr, repr_int]
  simp only [decide_eq_true_eq]

theorem isNumeral_repr (n : Nat) : IsNumeral (Nat.toDigits 10 n) :=
  isNumeral_of_allDigits Nat.toDigits_ne_nil (allDigits_toDigits n)

theorem isExponent_repr (i : Int) : IsExponent ('e' :: (toString i).toList) := by
  rw [Int.toString_eq_repr, repr_int]
  split
  · exact .down Nat.toDigits_ne_nil (allDigits_toDigits _)
  · exact .up Nat.toDigits_ne_nil (allDigits_toDigits _)

theorem allDigits_figures (x : Decimal) : AllDigits x.figures.1 := by
  intro c hc
  have kept : c ∈ (Nat.toDigits 10 x.digits).reverse :=
    (List.dropWhile_sublist _).subset (List.mem_reverse.1 hc)
  exact allDigits_toDigits _ c (List.mem_reverse.1 kept)

/-- A decimal in positional layout is a numeral. -/
theorem isNumeral_positional {wholeMark : Bool} {figures : List Char} (place : Int)
    (some : figures ≠ []) (all : AllDigits figures) :
    IsNumeral (positional wholeMark figures place) := by
  unfold positional
  split
  · have fraction := IsFraction.point (allDigits_append (allDigits_zeros (-place).toNat) all)
    have numeral := IsNumeral.mk (List.cons_ne_nil '0' []) allDigits_zero fraction .none
    simpa using numeral
  · rename_i positive
    have whole : figures.take place.toNat ++ List.replicate (place.toNat - figures.length) '0' ≠
        [] := by
      have : figures.take place.toNat ≠ [] := by
        simp only [ne_eq, List.take_eq_nil_iff, some, or_false]
        omega
      simp [this]
    have digits : AllDigits
        (figures.take place.toNat ++ List.replicate (place.toNat - figures.length) '0') :=
      allDigits_append (fun c hc => all c (List.mem_of_mem_take hc)) (allDigits_zeros _)
    have fraction : IsFraction (if (figures.drop place.toNat).isEmpty then
        (if wholeMark then ['.', '0'] else []) else '.' :: figures.drop place.toNat) := by
      split
      · cases wholeMark with
        | true => exact .point allDigits_zero
        | false => exact .none
      · exact .point fun c hc => all c (List.mem_of_mem_drop hc)
    have numeral := IsNumeral.mk whole digits fraction .none
    rwa [List.append_nil] at numeral

theorem isNumeral_scientific {figures : List Char} (place : Int) (some : figures ≠ [])
    (all : AllDigits figures) : IsNumeral (scientific figures place) := by
  have exponent := isExponent_repr (place - 1)
  match figures, some, all with
  | [first], some, all =>
    have numeral := IsNumeral.mk some all .none exponent
    rwa [List.append_nil] at numeral
  | first :: second :: rest, _, all =>
    have one : AllDigits [first] := fun c hc => all c (by simp_all)
    have more : AllDigits (second :: rest) := fun c hc => all c (List.mem_cons_of_mem _ hc)
    exact .mk (List.cons_ne_nil _ _) one (.point more) exponent

/-- A real is written in the shape of a number in every layout. -/
theorem isNumeral_digits (l : Layout) (x : Decimal) : IsNumeral (l.digits x) := by
  have all := allDigits_figures x
  unfold Layout.digits
  generalize x.figures = f at all ⊢
  obtain ⟨figures, place⟩ := f
  dsimp only at all ⊢
  split
  · have zero : IsFraction (if l.wholeMark then ['.', '0'] else []) := by
      split
      · exact .point allDigits_zero
      · exact .none
    have numeral := IsNumeral.mk (List.cons_ne_nil '0' []) allDigits_zero zero .none
    rwa [List.append_nil] at numeral
  · rename_i some
    have some : figures ≠ [] := by simpa using some
    split
    · exact isNumeral_positional place some all
    · split
      · exact isNumeral_positional place some all
      · exact isNumeral_scientific place some all

/-! ## Reading a number -/

/-- The text does not go on with what could belong to a number. -/
def EndsNumber (rest : List Char) : Prop :=
  ∀ c, rest.head? = some c → c.isDigit = false ∧ c ≠ '.' ∧ c ≠ 'e' ∧ c ≠ 'E'

theorem spanDigits_append {digits rest : List Char} (all : AllDigits digits)
    (h : ∀ c, rest.head? = some c → c.isDigit = false) :
    spanDigits (digits ++ rest) = (digits, rest) := by
  rw [spanDigits, List.takeWhile_append_of_pos all, List.dropWhile_append_of_pos all]
  cases rest with
  | nil => simp
  | cons c r => simp [h c rfl]

theorem spanExponent_append {exponent rest : List Char} (shape : IsExponent exponent)
    (ends : EndsNumber rest) : spanExponent (exponent ++ rest) = (exponent, rest) := by
  have notDigit (c : Char) (h : rest.head? = some c) : c.isDigit = false := (ends c h).1
  cases shape with
  | none =>
    cases rest with
    | nil => rfl
    | cons c r =>
      obtain ⟨-, -, lower, upper⟩ := ends c rfl
      simp [spanExponent, lower, upper]
  | @up digits some all =>
    obtain ⟨first, more, rfl⟩ := List.exists_cons_of_ne_nil some
    have mark : spanMark (first :: more ++ rest) = ([], first :: more ++ rest) := by
      have plus : first ≠ '+' := by rintro rfl; exact absurd (all '+' (by simp)) (by decide)
      have minus : first ≠ '-' := by rintro rfl; exact absurd (all '-' (by simp)) (by decide)
      simp [spanMark, plus, minus]
    simp only [List.cons_append, spanExponent] at mark ⊢
    rw [mark, ← List.cons_append, spanDigits_append all notDigit]
    simp
  | @down digits some all =>
    simp only [List.cons_append, spanExponent, spanMark, if_true, or_true]
    rw [spanDigits_append all notDigit]
    simp [some]

theorem spanNumber_append {s rest : List Char} (shape : IsNumeral s) (ends : EndsNumber rest) :
    spanNumber (s ++ rest) = (s, rest) := by
  obtain @⟨whole, fraction, exponent, some, all, hf, he⟩ := shape
  have exponentEnds (c : Char) (h : (exponent ++ rest).head? = Option.some c) :
      c.isDigit = false ∧ c ≠ '.' := by
    cases he with
    | none => exact ⟨(ends c h).1, (ends c h).2.1⟩
    | up | down =>
      cases h
      decide
  cases hf with
  | none =>
    have split : spanDigits (whole ++ (exponent ++ rest)) = (whole, exponent ++ rest) :=
      spanDigits_append all fun c h => (exponentEnds c h).1
    simp only [List.append_nil, List.append_assoc, spanNumber, split]
    cases onward : exponent ++ rest with
    | nil => simp_all [spanExponent]
    | cons c r =>
      have point : c ≠ '.' := (exponentEnds c (by rw [onward]; rfl)).2
      have read := spanExponent_append he ends
      rw [onward] at read
      simp [point, read]
  | @point digits hd =>
    have first : spanDigits (whole ++ '.' :: (digits ++ (exponent ++ rest))) =
        (whole, '.' :: (digits ++ (exponent ++ rest))) :=
      spanDigits_append all fun c h => by cases h; decide
    have second : spanDigits (digits ++ (exponent ++ rest)) = (digits, exponent ++ rest) :=
      spanDigits_append hd fun c h => (exponentEnds c h).1
    simp only [List.append_assoc, List.cons_append, spanNumber, first, second,
      spanExponent_append he ends]

end PooledSql.Sql
