import Mathlib.Data.List.TakeWhile
import PooledSql.Proofs.Numbers.Shortest
import PooledSql.Proofs.Rendering.Numerals

/-!
# Reading doubles back

A reader of written numbers: the digits before and after the point as one number, and the exponent.
What is written for a decimal, in any layout, is read as a decimal of the same value. As the decimal of
a double lies in the double's interval, the double itself is found from its text, bit by bit.

Results:
* `value_readDecimal`: what is written for a decimal has its value.
* `readDouble_digits`: what is written for a double is read as that double.
* `not_allDigits_literal`: as a literal it is told apart from an integer.
-/

namespace PooledSql.Number

open Sql (AllDigits allDigits_append allDigits_zeros allDigits_zero allDigits_toDigits allDigits_figures
  spanDigits spanDigits_append repr_int)

/-! ## The reader -/

/-- The number that digits stand for. -/
def numberOf (digits : List Char) : ℕ := Nat.ofDigitChars 10 digits 0

/-- The exponent of a written number, zero where there is none. -/
def readExponent : List Char → ℤ
  | 'e' :: '-' :: digits => -(numberOf digits : ℤ)
  | 'e' :: digits => numberOf digits
  | _ => 0

/-- The decimal that is written. -/
def readDecimal (s : List Char) : Decimal :=
  let (whole, r) := spanDigits s
  match r with
  | '.' :: r =>
    let (fraction, exponent) := spanDigits r
    ⟨numberOf (whole ++ fraction), readExponent exponent - fraction.length⟩
  | exponent => ⟨numberOf whole, readExponent exponent⟩

/-- The double of a sign and what is written behind it. -/
def readDouble (negative : Bool) (s : List Char) : Double :=
  ⟨UInt64.ofNat ((if negative then twoTo 63 else 0) + (readDecimal s).payload)⟩

/-! ## Digits -/

theorem numberOf_append (a b : List Char) :
    numberOf (a ++ b) = 10 ^ b.length * numberOf a + numberOf b := by
  rw [numberOf, Nat.ofDigitChars_append, Nat.ofDigitChars_eq_ofDigitChars_zero]
  rfl

theorem numberOf_zeros (n : ℕ) : numberOf (List.replicate n '0') = 0 := by
  rw [numberOf, Nat.ofDigitChars_replicate_zero, Nat.mul_zero]

/-- Digits are those that count and zeros behind them. -/
theorem exists_zeros (digits : List Char) :
    ∃ n, digits = (digits.reverse.dropWhile (· == '0')).reverse ++ List.replicate n '0' := by
  refine ⟨(digits.reverse.takeWhile (· == '0')).length, ?_⟩
  have zeros : (digits.reverse.takeWhile (· == '0')).reverse =
      List.replicate (digits.reverse.takeWhile (· == '0')).length '0' := by
    rw [List.eq_replicate_iff]
    refine ⟨List.length_reverse, fun c hc => ?_⟩
    have := List.mem_takeWhile_imp (List.mem_reverse.1 hc)
    exact beq_iff_eq.1 this
  rw [← zeros, ← List.reverse_append, List.takeWhile_append_dropWhile, List.reverse_reverse]

/-- The value of digits with the point in its place. -/
def figuresValue (figures : List Char) (place : ℤ) : ℚ :=
  numberOf figures * (10 : ℚ) ^ (place - figures.length)

theorem figuresValue_figures (x : Decimal) : figuresValue x.figures.1 x.figures.2 = x.value := by
  obtain ⟨n, split⟩ := exists_zeros (Nat.toDigits 10 x.digits)
  have digits : numberOf (Nat.toDigits 10 x.digits) = x.digits := Nat.ofDigitChars_ten_toDigits
  unfold Decimal.figures figuresValue Decimal.value
  dsimp only
  generalize (Nat.toDigits 10 x.digits).reverse.dropWhile (· == '0') = kept at split ⊢
  have number : x.digits = 10 ^ n * numberOf kept.reverse := by
    rw [← digits, split, numberOf_append, numberOf_zeros, List.length_replicate, Nat.add_zero]
  have length : (Nat.toDigits 10 x.digits).length = kept.reverse.length + n := by
    rw [split, List.length_append, List.length_replicate]
  have place : x.exponent + ((kept.reverse.length + n : ℕ) : ℤ) - kept.reverse.length =
      n + x.exponent := by
    push_cast
    ring
  rw [length, place, number, zpow_add₀ (by norm_num), zpow_natCast]
  push_cast
  ring

/-! ## Reading what is written -/

section Parts

variable {whole fraction exponent : List Char}

/-- The part behind the digits does not go on with a digit or a point. -/
def StartsExponent (exponent : List Char) : Prop :=
  ∀ c, exponent.head? = some c → c.isDigit = false ∧ c ≠ '.'

theorem readDecimal_whole (all : AllDigits whole) (start : StartsExponent exponent) :
    readDecimal (whole ++ exponent) = ⟨numberOf whole, readExponent exponent⟩ := by
  unfold readDecimal
  rw [spanDigits_append all fun c h => (start c h).1]
  dsimp only
  split
  · rename_i r
    exact absurd rfl (start '.' rfl).2
  · rfl

theorem readDecimal_fraction (all : AllDigits whole) (all' : AllDigits fraction)
    (start : StartsExponent exponent) :
    readDecimal (whole ++ '.' :: (fraction ++ exponent)) =
      ⟨numberOf (whole ++ fraction), readExponent exponent - fraction.length⟩ := by
  unfold readDecimal
  rw [spanDigits_append all fun c h => by cases h; decide]
  simp only [spanDigits_append all' fun c h => (start c h).1]

theorem startsExponent_nil : StartsExponent [] := fun c h => by cases h

theorem readExponent_nil : readExponent [] = 0 := rfl

theorem startsExponent_e (more : List Char) : StartsExponent ('e' :: more) := by
  rintro c ⟨⟩
  decide

theorem readExponent_toString (i : ℤ) : readExponent ('e' :: (toString i).toList) = i := by
  have digits (n : ℕ) : numberOf (Nat.toDigits 10 n) = n := Nat.ofDigitChars_ten_toDigits
  rw [Int.toString_eq_repr, repr_int]
  split
  · rw [readExponent, digits]
    omega
  · cases shape : Nat.toDigits 10 i.natAbs with
    | nil => exact absurd shape Nat.toDigits_ne_nil
    | cons c r =>
      have digit : c.isDigit = true := allDigits_toDigits i.natAbs c (by rw [shape]; simp)
      have minus : c ≠ '-' := by
        rintro rfl
        exact absurd digit (by decide)
      have read : readExponent ('e' :: c :: r) = numberOf (c :: r) := by
        rw [readExponent]
        rintro _ ⟨⟩
        exact minus rfl
      rw [read, ← shape, digits]
      omega

end Parts

section Layouts

variable {figures : List Char} {place : ℤ}

/-- With the point in front of the digits, there may be zeros between. -/
theorem value_positional_before (wholeMark : Bool) (all : AllDigits figures) (small : place ≤ 0) :
    (readDecimal (positional wholeMark figures place)).value = figuresValue figures place := by
  have read := readDecimal_fraction allDigits_zero
    (allDigits_append (allDigits_zeros (-place).toNat) all) startsExponent_nil
  rw [List.append_nil] at read
  have number : numberOf (['0'] ++ (List.replicate (-place).toNat '0' ++ figures)) =
      numberOf figures := by
    rw [numberOf_append, numberOf_append, numberOf_zeros, show numberOf ['0'] = 0 from rfl]
    omega
  have exponent : readExponent [] - ((List.replicate (-place).toNat '0' ++ figures).length : ℤ) =
      place - figures.length := by
    rw [readExponent_nil, List.length_append, List.length_replicate]
    omega
  rw [positional, if_pos small, show '0' :: '.' :: (List.replicate (-place).toNat '0' ++ figures) =
    ['0'] ++ '.' :: (List.replicate (-place).toNat '0' ++ figures) from rfl, read, number, exponent]
  rfl

/-- With the point behind the digits, there may be zeros between, and a zero behind the point. -/
theorem value_positional_behind (wholeMark : Bool) (all : AllDigits figures) (positive : ¬ place ≤ 0)
    (long : figures.length ≤ place.toNat) :
    (readDecimal (positional wholeMark figures place)).value = figuresValue figures place := by
  have taken : figures.take place.toNat = figures := List.take_of_length_le long
  have rest : figures.drop place.toNat = [] := List.drop_eq_nil_iff.2 long
  have zeros := allDigits_append all (allDigits_zeros (place.toNat - figures.length))
  have number : numberOf (figures ++ List.replicate (place.toNat - figures.length) '0') =
      10 ^ (place.toNat - figures.length) * numberOf figures := by
    rw [numberOf_append, numberOf_zeros, List.length_replicate, Nat.add_zero]
  have power : (10 : ℚ) ^ (place - figures.length) = 10 ^ (place.toNat - figures.length) := by
    rw [← zpow_natCast]
    congr 1
    omega
  rw [positional, if_neg positive]
  dsimp only
  rw [rest, taken, List.isEmpty_nil, if_pos rfl]
  cases wholeMark with
  | false =>
    have read := readDecimal_whole zeros startsExponent_nil
    rw [if_neg Bool.false_ne_true, read, number, figuresValue, power, Decimal.value,
      readExponent_nil]
    push_cast
    ring
  | true =>
    have read := readDecimal_fraction zeros allDigits_zero startsExponent_nil
    have more : numberOf (figures ++ List.replicate (place.toNat - figures.length) '0' ++ ['0']) =
        10 * (10 ^ (place.toNat - figures.length) * numberOf figures) := by
      rw [numberOf_append, number, show numberOf ['0'] = 0 from rfl]
      rfl
    rw [if_pos rfl, show (['.', '0'] : List Char) = '.' :: (['0'] ++ []) from rfl, read, more,
      figuresValue, power, Decimal.value, readExponent_nil]
    push_cast
    norm_num
    ring

/-- With the point among the digits, they are split there. -/
theorem value_positional_among (wholeMark : Bool) (all : AllDigits figures) (positive : ¬ place ≤ 0)
    (short : place.toNat < figures.length) :
    (readDecimal (positional wholeMark figures place)).value = figuresValue figures place := by
  have none : place.toNat - figures.length = 0 := by omega
  have whole : AllDigits (figures.take place.toNat) := fun d hd => all d (List.mem_of_mem_take hd)
  have fraction : AllDigits (figures.drop place.toNat) := fun d hd => all d (List.mem_of_mem_drop hd)
  have some : (figures.drop place.toNat).isEmpty = false := by
    rw [List.isEmpty_eq_false_iff, ne_eq, List.drop_eq_nil_iff]
    omega
  have read := readDecimal_fraction whole fraction startsExponent_nil
  have exponent : readExponent [] - ((figures.drop place.toNat).length : ℤ) =
      place - figures.length := by
    rw [List.length_drop, readExponent_nil]
    omega
  rw [List.append_nil, List.take_append_drop, exponent] at read
  rw [positional, if_neg positive]
  dsimp only
  rw [none, List.replicate_zero, List.append_nil, some, if_neg Bool.false_ne_true, read]
  rfl

/-- Positional layout keeps the value. -/
theorem value_positional (wholeMark : Bool) (all : AllDigits figures) :
    (readDecimal (positional wholeMark figures place)).value = figuresValue figures place := by
  by_cases small : place ≤ 0
  · exact value_positional_before wholeMark all small
  · rcases Nat.lt_or_ge place.toNat figures.length with short | long
    · exact value_positional_among wholeMark all small short
    · exact value_positional_behind wholeMark all small long

/-- Scientific layout keeps the value. -/
theorem value_scientific (all : AllDigits figures) (some : figures ≠ []) :
    (readDecimal (scientific figures place)).value = figuresValue figures place := by
  unfold scientific
  have onward := startsExponent_e (toString (place - 1)).toList
  match figures, all, some with
  | [first], all, _ =>
    have read := readDecimal_whole all onward
    rw [readExponent_toString] at read
    rw [read]
    rfl
  | first :: second :: rest, all, _ =>
    have one : AllDigits [first] := fun c hc => all c (by simp_all)
    have more : AllDigits (second :: rest) := fun c hc => all c (List.mem_cons_of_mem _ hc)
    have read := readDecimal_fraction one more onward
    have exponent : place - 1 - ((second :: rest).length : ℤ) =
        place - ((first :: second :: rest).length : ℤ) := by
      simp only [List.length_cons]
      push_cast
      ring
    rw [readExponent_toString, exponent] at read
    show (readDecimal ([first] ++ '.' :: (second :: rest ++ _))).value = _
    rw [read]
    rfl

/-- What is written for a decimal has its value. -/
theorem value_readDecimal (l : Layout) (x : Decimal) :
    (readDecimal (l.digits x)).value = x.value := by
  have all := allDigits_figures x
  rw [← figuresValue_figures x]
  unfold Layout.digits
  generalize x.figures = f at all ⊢
  obtain ⟨figures, place⟩ := f
  dsimp only at all ⊢
  split
  · rename_i none
    have whole : readDecimal ['0'] = ⟨0, 0⟩ := by decide
    have marked : readDecimal ['0', '.', '0'] = ⟨0, -1⟩ := by decide
    rw [List.isEmpty_iff.1 none, figuresValue, show numberOf [] = 0 from rfl]
    cases l.wholeMark <;> simp [whole, marked, Decimal.value]
  · rename_i some
    have some : figures ≠ [] := by simpa using some
    split
    · exact value_positional _ all
    · split
      · exact value_positional _ all
      · exact value_scientific all some

/-- What is written for a double is read as that double. -/
theorem readDouble_digits (l : Layout) (d : Double) :
    readDouble d.isNegative (l.digits (Decimal.ofDouble d)) = d := by
  have inside := Decimal.holds_ofDouble d
  rw [← value_readDecimal l] at inside
  have payload := Decimal.payload_eq inside
  have unit : twoTo 63 = 9223372036854775808 := rfl
  have bits : d.bits.toNat < 18446744073709551616 := d.bits.toNat_lt
  have whole : (if d.isNegative then twoTo 63 else 0) + d.payload = d.bits.toNat := by
    unfold Double.isNegative Double.payload
    rw [unit]
    split
    · rename_i negative
      have := of_decide_eq_true negative
      omega
    · rename_i positive
      have := of_decide_eq_false (Bool.eq_false_iff.2 positive)
      omega
  rw [readDouble, payload, whole, UInt64.ofNat_toNat]

/-- A tenth is read as the double nearest to it. -/
example : readDouble true "0.1".toList = ⟨0xbfb999999999999a⟩ := by decide +kernel

end Layouts

/-! ## Reals and integers -/

/-- As a literal, a real is written with a point or an exponent. -/
theorem point_or_exponent (x : Decimal) :
    '.' ∈ Layout.literal.digits x ∨ 'e' ∈ Layout.literal.digits x := by
  have point (figures : List Char) (place : ℤ) : '.' ∈ positional true figures place := by
    unfold positional
    split
    · simp
    · dsimp only
      split <;> simp
  have exponent (figures : List Char) (place : ℤ) : 'e' ∈ scientific figures place := by
    unfold scientific
    simp
  unfold Layout.digits
  generalize x.figures = f
  obtain ⟨figures, place⟩ := f
  dsimp only [Layout.literal]
  split
  · exact .inl (by simp)
  · split
    · exact .inl (point figures place)
    · exact .inr (exponent figures place)

/-- So it is told apart from an integer. -/
theorem not_allDigits_literal (x : Decimal) : ¬ AllDigits (Layout.literal.digits x) := by
  intro all
  rcases point_or_exponent x with mark | mark
  · exact absurd (all _ mark) (by decide)
  · exact absurd (all _ mark) (by decide)

end PooledSql.Number
