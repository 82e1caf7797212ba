import Mathlib.Algebra.Order.Field.Power
import Mathlib.Algebra.Order.Ring.Rat
import Mathlib.Tactic.FieldSimp
import Mathlib.Tactic.Linarith
import Mathlib.Tactic.Positivity
import Mathlib.Tactic.Ring
import PooledSql.Number.Shortest

/-!
# The intervals of doubles

Each finite double stands for an interval of real numbers, those that round to it. The intervals of
the doubles without a sign lie one after the other in the order of their bits: where one ends the next
begins, and the end belongs to exactly one of the two. So a number lies in one interval only, and the
double is found from the number by a search over the bits.

Results:
* `contains_iff`: the test in whole numbers says whether a decimal lies in an interval.
* `upper_eq_lower`, `closed_cell`: where one interval ends the next begins, and one of them has the end.
* `Decimal.payload_eq`: a decimal in the interval of a double has the double's bits.
-/

namespace PooledSql.Number

/-! ## Comparing decimals with binary numbers -/

/-- The value of a decimal. -/
def Decimal.value (x : Decimal) : ℚ := x.digits * (10 : ℚ) ^ x.exponent

theorem pow_toNat {b : ℚ} (hb : b ≠ 0) (n : ℤ) : b ^ n.toNat = b ^ n * b ^ (-n).toNat := by
  rw [← zpow_natCast, ← zpow_natCast, ← zpow_add₀ hb]
  congr 1
  omega

/-- Both weights are those of the grid and of the unit, brought to one scale. -/
theorem weights_eq (scale e : ℤ) : ∃ w : ℚ, 0 < w ∧
    ((weights scale e).1 : ℚ) = (10 : ℚ) ^ e * w ∧ ((weights scale e).2 : ℚ) = (2 : ℚ) ^ scale * w := by
  refine ⟨(2 : ℚ) ^ (-scale).toNat * (10 : ℚ) ^ (-e).toNat, by positivity, ?_, ?_⟩
  · have ten := pow_toNat (b := 10) (by norm_num) e
    have cast : ((weights scale e).1 : ℚ) = (10 : ℚ) ^ e.toNat * (2 : ℚ) ^ (-scale).toNat := by
      simp [weights, tenTo, twoTo]
    rw [cast, ten]
    ring
  · have two := pow_toNat (b := 2) (by norm_num) scale
    have cast : ((weights scale e).2 : ℚ) = (2 : ℚ) ^ scale.toNat * (10 : ℚ) ^ (-e).toNat := by
      simp [weights, tenTo, twoTo]
    rw [cast, two]
    ring

variable {scale e : ℤ} {a c : ℕ}

theorem unit_le_grid_iff : a * (weights scale e).2 ≤ c * (weights scale e).1 ↔
    (a : ℚ) * 2 ^ scale ≤ c * 10 ^ e := by
  obtain ⟨w, positive, grid, unit⟩ := weights_eq scale e
  rw [← Nat.cast_le (α := ℚ), Nat.cast_mul, Nat.cast_mul, grid, unit, ← mul_assoc, ← mul_assoc,
    mul_le_mul_iff_of_pos_right positive]

theorem grid_le_unit_iff : c * (weights scale e).1 ≤ a * (weights scale e).2 ↔
    (c : ℚ) * 10 ^ e ≤ a * 2 ^ scale := by
  obtain ⟨w, positive, grid, unit⟩ := weights_eq scale e
  rw [← Nat.cast_le (α := ℚ), Nat.cast_mul, Nat.cast_mul, grid, unit, ← mul_assoc, ← mul_assoc,
    mul_le_mul_iff_of_pos_right positive]

theorem unit_lt_grid_iff : a * (weights scale e).2 < c * (weights scale e).1 ↔
    (a : ℚ) * 2 ^ scale < c * 10 ^ e := by
  rw [← not_le, grid_le_unit_iff, not_le]

theorem grid_lt_unit_iff : c * (weights scale e).1 < a * (weights scale e).2 ↔
    (c : ℚ) * 10 ^ e < a * 2 ^ scale := by
  rw [← not_le, unit_le_grid_iff, not_le]

namespace Interval

/-- Where the interval begins. -/
def lower (i : Interval) : ℚ := i.low * 2 ^ i.scale

/-- Where the interval ends. -/
def upper (i : Interval) : ℚ := i.high * 2 ^ i.scale

/-- The number is not before the interval. -/
def Reaches (i : Interval) (x : ℚ) : Prop := if i.closed then i.lower ≤ x else i.lower < x

/-- The number lies in the interval. -/
def Holds (i : Interval) (x : ℚ) : Prop :=
  if i.closed then i.lower ≤ x ∧ x ≤ i.upper else i.lower < x ∧ x < i.upper

theorem contains_iff (i : Interval) (e : ℤ) (c : ℕ) :
    i.contains e c = true ↔ i.Holds (c * 10 ^ e) := by
  unfold contains Holds lower upper
  dsimp only
  split
  · rw [Bool.and_eq_true, decide_eq_true_iff, decide_eq_true_iff, unit_le_grid_iff,
      grid_le_unit_iff]
  · rw [Bool.and_eq_true, decide_eq_true_iff, decide_eq_true_iff, unit_lt_grid_iff,
      grid_lt_unit_iff]

section Ends

variable {i : Interval} {x : ℚ}

theorem Reaches.lower_le (h : i.Reaches x) : i.lower ≤ x := by
  unfold Reaches at h
  split at h
  · exact h
  · exact h.le

theorem reaches_of_lt (h : i.lower < x) : i.Reaches x := by
  unfold Reaches
  split
  · exact h.le
  · exact h

theorem Holds.reaches (h : i.Holds x) : i.Reaches x := by
  unfold Holds at h
  unfold Reaches
  split
  · rw [if_pos ‹_›] at h
    exact h.1
  · rw [if_neg ‹_›] at h
    exact h.1

theorem Holds.le_upper (h : i.Holds x) : x ≤ i.upper := by
  unfold Holds at h
  split at h
  · exact h.2
  · exact h.2.le

/-- Between two neighbours of which exactly one has the common end, no number is in both. -/
theorem Holds.not_reaches {j : Interval} (h : i.Holds x) (later : i.upper ≤ j.lower)
    (apart : i.upper = j.lower → j.closed = !i.closed) : ¬ j.Reaches x := by
  intro reached
  have meet : i.upper = j.lower := le_antisymm later (reached.lower_le.trans h.le_upper)
  have closed := apart meet
  unfold Holds at h
  unfold Reaches at reached
  rw [closed, ← meet] at reached
  cases ends : i.closed with
  | true =>
    rw [ends] at h reached
    exact absurd reached (not_lt.2 h.2)
  | false =>
    rw [ends] at h reached
    exact absurd h.2 (not_lt.2 reached)

end Ends

/-- The decimal is not before the interval, tested in whole numbers. -/
def isReached (i : Interval) (x : Decimal) : Bool :=
  let (grid, unit) := weights i.scale x.exponent
  if i.closed then i.low * unit ≤ x.digits * grid else i.low * unit < x.digits * grid

/-- The test on whole numbers is the comparison of rationals. -/
theorem isReached_iff (i : Interval) (x : Decimal) :
    i.isReached x = true ↔ i.Reaches x.value := by
  unfold isReached Reaches lower Decimal.value
  dsimp only
  split
  · rw [decide_eq_true_iff, unit_le_grid_iff]
  · rw [decide_eq_true_iff, unit_lt_grid_iff]

end Interval

/-! ## One interval after the other -/

/-- The double without a sign that has the given bits. -/
def unsigned (p : ℕ) : Double := ⟨UInt64.ofNat p⟩

/-- The interval of the double without a sign that has the given bits. -/
def cell (p : ℕ) : Interval := Interval.ofDouble (unsigned p)

theorem payload_unsigned {p : ℕ} (small : p < twoTo 63) : (unsigned p).payload = p := by
  have bits : (unsigned p).bits.toNat = p := by
    have : p < 2 ^ 64 := Nat.lt_trans small (by decide)
    simp only [unsigned, UInt64.toNat_ofNat']
    exact Nat.mod_eq_of_lt this
  rw [Double.payload, bits, Nat.mod_eq_of_lt small]

/-- The interval of a double depends on its payload only. -/
theorem ofDouble_eq_cell (d : Double) : Interval.ofDouble d = cell d.payload := by
  have small : d.payload < twoTo 63 := Nat.mod_lt _ (twoTo_pos 63)
  have same := payload_unsigned small
  obtain ⟨significand, scale⟩ := Double.magnitude_neg _ _ same
  have narrow : (unsigned d.payload).isNarrowBelow = d.isNarrowBelow := by
    rw [Double.isNarrowBelow, Double.isNarrowBelow, Double.fraction, Double.fraction,
      Double.exponentField, Double.exponentField, same]
  rw [cell, Interval.ofDouble, Interval.ofDouble, significand, scale, narrow]

section Cells

variable {p : ℕ}

theorem exponentField_unsigned (small : p < twoTo 63) :
    (unsigned p).exponentField = p / twoTo 52 := by
  rw [Double.exponentField, payload_unsigned small]

theorem fraction_unsigned (small : p < twoTo 63) : (unsigned p).fraction = p % twoTo 52 := by
  rw [Double.fraction, payload_unsigned small]

/-- Where one interval ends the next begins. -/
theorem upper_eq_lower (small : p + 1 < twoTo 63) : (cell p).upper = (cell (p + 1)).lower := by
  have unit : twoTo 52 = 4503599627370496 := rfl
  have exponent := exponentField_unsigned (Nat.lt_of_succ_lt small)
  have fraction := fraction_unsigned (Nat.lt_of_succ_lt small)
  have exponent' := exponentField_unsigned small
  have fraction' := fraction_unsigned small
  simp only [Interval.upper, Interval.lower, cell, Interval.ofDouble, Double.significand,
    Double.scale, Double.isNarrowBelow, exponent, fraction, exponent', fraction', unit]
  by_cases last : p % 4503599627370496 = 4503599627370495
  · -- the fraction starts again, with one more in the exponent
    have quotient : (p + 1) / 4503599627370496 = p / 4503599627370496 + 1 := by omega
    have rest : (p + 1) % 4503599627370496 = 0 := by omega
    rw [quotient, rest, last]
    generalize p / 4503599627370496 = e
    by_cases least : e = 0
    · simp [least]
    · have next : e + 1 ≠ 0 := by omega
      have narrow : decide (1 < e + 1) = true := by
        rw [decide_eq_true_iff]
        omega
      have step : (2 : ℚ) ^ (((e + 1 : ℕ) : ℤ) - 1075 - 2) = 2 * 2 ^ ((e : ℤ) - 1075 - 2) := by
        rw [show ((e + 1 : ℕ) : ℤ) - 1075 - 2 = 1 + ((e : ℤ) - 1075 - 2) by push_cast; ring,
          zpow_add₀ (by norm_num), zpow_one]
      rw [if_neg least, if_neg least, if_neg next, if_neg next, narrow, step]
      norm_num
      ring
  · have quotient : (p + 1) / 4503599627370496 = p / 4503599627370496 := by omega
    have rest : (p + 1) % 4503599627370496 = p % 4503599627370496 + 1 := by omega
    rw [quotient, rest]
    generalize p / 4503599627370496 = e
    generalize p % 4503599627370496 = f
    have wide : (f + 1 == 0) = false := rfl
    have low (m : ℕ) : 4 * (m + 1) - 2 = 4 * m + 2 := by omega
    rw [wide, Bool.false_and, if_neg Bool.false_ne_true]
    split
    · rw [low]
    · rw [Nat.add_right_comm, low]

/-- An interval has its ends if the bits are even, so of two neighbours exactly one has them. -/
theorem closed_cell (small : p < twoTo 63) : (cell p).closed = (p % 2 == 0) := by
  have unit : twoTo 52 = 4503599627370496 := rfl
  have parity : (unsigned p).significand % 2 = p % 2 := by
    rw [Double.significand, fraction_unsigned small, unit]
    split <;> omega
  show ((unsigned p).significand % 2 == 0) = _
  rw [parity]

theorem lower_lt_upper : (cell p).lower < (cell p).upper := by
  have positive : (0 : ℚ) < 2 ^ (cell p).scale := zpow_pos (by norm_num) _
  have less : (cell p).low < (cell p).high := by
    simp only [cell, Interval.ofDouble]
    omega
  exact mul_lt_mul_of_pos_right (Nat.cast_lt.2 less) positive

/-- The cells of doubles start in the order of their payloads. -/
theorem lower_lt_lower {q : ℕ} (less : p < q) (small : q < twoTo 63) :
    (cell p).lower < (cell q).lower := by
  induction q, less using Nat.le_induction with
  | base =>
    rw [← upper_eq_lower small]
    exact lower_lt_upper
  | succ q le ih =>
    rw [← upper_eq_lower small]
    exact (ih (Nat.lt_of_succ_lt small)).trans lower_lt_upper

/-- A number in the interval of some bits has reached the intervals up to there, and no other ones. -/
theorem reaches_iff {q : ℕ} {x : ℚ} (h : (cell q).Holds x) (hp : p < twoTo 63)
    (hq : q < twoTo 63) : (cell p).Reaches x ↔ p ≤ q := by
  constructor
  · intro reached
    by_contra beyond
    rw [Nat.not_le] at beyond
    have next : q + 1 < twoTo 63 := by omega
    have ends := upper_eq_lower next
    rcases Nat.eq_or_lt_of_le (Nat.succ_le_of_lt beyond) with rfl | later
    · refine h.not_reaches ends.le (fun _ => ?_) reached
      rw [closed_cell next, closed_cell hq]
      rcases Nat.mod_two_eq_zero_or_one q with even | odd
      · rw [Nat.succ_mod_two_eq_one_iff.2 even, even]
        rfl
      · rw [Nat.succ_mod_two_eq_zero_iff.2 odd, odd]
        rfl
    · have past : (cell q).upper < (cell p).lower := ends.trans_lt (lower_lt_lower later hp)
      exact h.not_reaches past.le (fun meet => absurd meet past.ne) reached
  · intro le
    rcases Nat.eq_or_lt_of_le le with rfl | before
    · exact h.reaches
    · have past := (lower_lt_lower before hq).trans_le h.reaches.lower_le
      exact Interval.reaches_of_lt past

end Cells

/-! ## Finding the double -/

/-- The greatest number that passes a test, from `p` on and within the next `2 ^ n` numbers, if the
test is passed up to some point and not beyond. -/
def search (test : ℕ → Bool) : ℕ → ℕ → ℕ
  | 0, p => p
  | n + 1, p => if test (p + twoTo n) then search test n (p + twoTo n) else search test n p

/-- The search by bits finds the last number that passes the test. -/
theorem search_eq {test : ℕ → Bool} {n p q : ℕ} (from' : p ≤ q) (within : q < p + twoTo n)
    (passed : ∀ r, r < p + twoTo n → (test r = true ↔ r ≤ q)) : search test n p = q := by
  induction n generalizing p with
  | zero =>
    have one : twoTo 0 = 1 := rfl
    rw [one] at within
    rw [search]
    omega
  | succ n ih =>
    have double : twoTo (n + 1) = twoTo n + twoTo n := by
      rw [twoTo_add]
      show twoTo n * 2 = _
      omega
    have positive := twoTo_pos n
    rw [double] at within passed
    rw [search]
    have middle := passed (p + twoTo n) (by omega)
    by_cases upper : p + twoTo n ≤ q
    · rw [if_pos (middle.2 upper)]
      exact ih upper (by omega) fun r hr => passed r (by omega)
    · rw [if_neg (mt middle.1 upper)]
      exact ih from' (by omega) fun r hr => passed r (by omega)

/-- The bits, without the sign, of the double that a decimal is read as: those of the last interval
that it reaches. -/
def Decimal.payload (x : Decimal) : ℕ := search (fun p => (cell p).isReached x) 63 0

/-- A decimal in the interval of a double has the double's bits. -/
theorem Decimal.payload_eq {x : Decimal} {d : Double}
    (h : (Interval.ofDouble d).Holds x.value) : x.payload = d.payload := by
  have small : d.payload < twoTo 63 := Nat.mod_lt _ (twoTo_pos 63)
  rw [ofDouble_eq_cell] at h
  refine search_eq (Nat.zero_le _) (by rwa [Nat.zero_add]) fun r hr => ?_
  rw [Nat.zero_add] at hr
  rw [Interval.isReached_iff, reaches_iff h hr small]

end PooledSql.Number
