import PooledSql.Proofs.Numbers.Intervals

/-!
# The shortest decimal lies in the interval

The search for the shortest decimal of a double looks at seventeen grids, each ten times as fine as
the one before. On the last of them two neighbours are less than the width of the interval apart, so
one of the two around the value lies in it. So the search always ends with a decimal, and that decimal
lies in the interval of the double.

Results:
* `neighbour?_isSome`: a grid finer than the interval has a point in it.
* `pow_magnitude_le`: the size that the search starts from is at most the value.
* `Decimal.holds_ofDouble`: the decimal of a double lies in the interval of the double.
-/

namespace PooledSql.Number

/-! ## Digits -/

theorem lt_pow_digitCount (n : ℕ) : n < 10 ^ digitCount n :=
  (Nat.length_toDigits_le_iff (by decide) Nat.length_toDigits_pos).1 (Nat.le_refl _)

theorem pow_digitCount_le {n : ℕ} (positive : 0 < n) : 10 ^ (digitCount n - 1) ≤ n := by
  by_contra less
  rw [Nat.not_le] at less
  rcases Nat.eq_zero_or_pos (digitCount n - 1) with one | more
  · rw [one] at less
    omega
  · have fewer := (Nat.length_toDigits_le_iff (by decide) more).2 less
    have : 0 < digitCount n := Nat.length_toDigits_pos
    have : digitCount n ≤ digitCount n - 1 := fewer
    omega

namespace Interval

variable {i : Interval}

/-! ## A point of a fine grid -/

/-- Two numbers that enclose one of the interior and are closer than the interval is wide are not
both outside. -/
theorem holds_or_holds {v below above : ℚ} (lower : i.lower < v) (upper : v < i.upper)
    (before : below ≤ v) (after : v < above) (fine : above - below < i.upper - i.lower) :
    i.Holds below ∨ i.Holds above := by
  by_contra neither
  rw [not_or] at neither
  unfold Holds at neither
  split at neither
  · have short : below < i.lower := by
      by_contra reached
      exact neither.1 ⟨not_lt.1 reached, before.trans upper.le⟩
    have past : i.upper < above := by
      by_contra within
      exact neither.2 ⟨(lower.trans after).le, not_lt.1 within⟩
    linarith
  · have short : below ≤ i.lower := by
      by_contra reached
      exact neither.1 ⟨not_le.1 reached, before.trans_lt upper⟩
    have past : i.upper ≤ above := by
      by_contra within
      exact neither.2 ⟨lower.trans after, not_le.1 within⟩
    linarith

/-- The search on a grid finds what there is around the value. -/
theorem neighbour?_isSome_of_contains {e : ℤ} {below : ℕ}
    (largest : below = i.value * (weights i.scale e).2 / (weights i.scale e).1)
    (one : i.contains e below = true ∨ i.contains e (below + 1) = true) :
    (i.neighbour? e).isSome = true := by
  unfold neighbour?
  dsimp only
  rw [← largest]
  rcases one with first | second
  · rw [first]
    split
    · split <;> rfl
    · rfl
    · contradiction
    · contradiction
  · rw [second]
    split
    · split <;> rfl
    · rfl
    · rfl
    · contradiction

/-- Of the two neighbours of the value on a grid that is finer than the interval is wide, one lies in
the interval. -/
theorem neighbour?_isSome {e : ℤ} (low : i.low < i.value) (high : i.value < i.high)
    (fine : (10 : ℚ) ^ e < i.upper - i.lower) : (i.neighbour? e).isSome = true := by
  have unit : (0 : ℚ) < 2 ^ i.scale := zpow_pos (by norm_num) _
  have lower : i.lower < i.value * 2 ^ i.scale := mul_lt_mul_of_pos_right (Nat.cast_lt.2 low) unit
  have upper : i.value * 2 ^ i.scale < i.upper := mul_lt_mul_of_pos_right (Nat.cast_lt.2 high) unit
  obtain ⟨below, hbelow⟩ : ∃ below, below = i.value * (weights i.scale e).2 / (weights i.scale e).1 :=
    ⟨_, rfl⟩
  have before : (below : ℚ) * 10 ^ e ≤ i.value * 2 ^ i.scale := by
    rw [← grid_le_unit_iff, hbelow]
    exact Nat.div_mul_le_self _ _
  have after : (i.value : ℚ) * 2 ^ i.scale < (below + 1 : ℕ) * 10 ^ e := by
    rw [← unit_lt_grid_iff, hbelow]
    have positive : 0 < (weights i.scale e).1 := Nat.mul_pos (tenTo_pos _) (twoTo_pos _)
    rw [Nat.mul_comm (_ / _ + 1)]
    exact Nat.lt_mul_div_succ _ positive
  have close : ((below + 1 : ℕ) : ℚ) * 10 ^ e - below * 10 ^ e < i.upper - i.lower := by
    push_cast
    linarith
  refine neighbour?_isSome_of_contains hbelow ?_
  rw [contains_iff, contains_iff]
  exact holds_or_holds lower upper before after close

/-! ## The size of the value -/

/-- The value as a fraction of whole numbers. -/
theorem value_eq_fraction (i : Interval) :
    ((i.value * twoTo i.scale.toNat : ℕ) : ℚ) = i.value * 2 ^ i.scale * twoTo (-i.scale).toNat := by
  have two := pow_toNat (b := 2) (by norm_num) i.scale
  have whole : ((i.value * twoTo i.scale.toNat : ℕ) : ℚ) = i.value * (2 : ℚ) ^ i.scale.toNat := by
    simp [twoTo]
  have below : ((twoTo (-i.scale).toNat : ℕ) : ℚ) = (2 : ℚ) ^ (-i.scale).toNat := by simp [twoTo]
  rw [whole, below, two]
  ring

/-- A comparison in whole numbers, as one of a fraction with a power of ten. -/
theorem pow_mul_le_of_scaled {num den : ℕ} {k : ℤ}
    (compared : den * tenTo k.toNat ≤ num * tenTo (-k).toNat) : (10 : ℚ) ^ k * den ≤ num := by
  have ten := pow_toNat (b := 10) (by norm_num) k
  have cast : (den : ℚ) * 10 ^ k.toNat ≤ num * 10 ^ (-k).toNat := by
    have := Nat.cast_le (α := ℚ).2 compared
    simpa [tenTo] using this
  have common : (0 : ℚ) < 10 ^ (-k).toNat := by positivity
  rw [ten, ← mul_assoc] at cast
  rw [mul_comm]
  exact le_of_mul_le_mul_right cast common

/-- The numbers of digits tell the size of a fraction but for a factor of ten. -/
theorem pow_mul_le_of_digits {num : ℕ} (positive : 0 < num) (den : ℕ) :
    (10 : ℚ) ^ ((digitCount num : ℤ) - digitCount den - 1) * den ≤ num := by
  have least : (10 : ℚ) ^ (digitCount num - 1) ≤ num := by
    exact_mod_cast pow_digitCount_le positive
  have greatest : (den : ℚ) ≤ 10 ^ digitCount den := by
    exact_mod_cast (lt_pow_digitCount den).le
  have digits : 0 < digitCount num := Nat.length_toDigits_pos
  have quotient : (10 : ℚ) ^ ((digitCount num : ℤ) - digitCount den - 1) * 10 ^ digitCount den =
      10 ^ (digitCount num - 1) := by
    rw [← zpow_natCast, ← zpow_natCast, ← zpow_add₀ (by norm_num)]
    congr 1
    omega
  calc (10 : ℚ) ^ ((digitCount num : ℤ) - digitCount den - 1) * den
      ≤ 10 ^ ((digitCount num : ℤ) - digitCount den - 1) * 10 ^ digitCount den := by gcongr
    _ = 10 ^ (digitCount num - 1) := quotient
    _ ≤ num := least

/-- The power of ten below which the search starts is at most ten times the value. -/
theorem pow_magnitude_le (positive : 0 < i.value) :
    (10 : ℚ) ^ (i.magnitude - 1) ≤ i.value * 2 ^ i.scale := by
  have den_pos : (0 : ℚ) < twoTo (-i.scale).toNat := Nat.cast_pos.2 (twoTo_pos _)
  -- it is enough to compare with the fraction
  suffices below : (10 : ℚ) ^ (i.magnitude - 1) * twoTo (-i.scale).toNat ≤
      (i.value * twoTo i.scale.toNat : ℕ) by
    rw [value_eq_fraction] at below
    exact le_of_mul_le_mul_right below den_pos
  unfold magnitude
  dsimp only
  split
  · rename_i compared
    rw [add_sub_cancel_right]
    exact pow_mul_le_of_scaled compared
  · exact pow_mul_le_of_digits (Nat.mul_pos positive (twoTo_pos _)) _

/-! ## The search -/

/-- The interval is wide enough for seventeen digits. -/
structure Wide (i : Interval) : Prop where
  low : i.low < i.value
  high : i.value < i.high
  width : i.value < (i.high - i.low) * 10 ^ 16

theorem Wide.fine (h : i.Wide) : (10 : ℚ) ^ (i.magnitude - 17) < i.upper - i.lower := by
  have positive : 0 < i.value := Nat.zero_lt_of_lt h.low
  have unit : (0 : ℚ) < 2 ^ i.scale := zpow_pos (by norm_num) _
  have size := pow_magnitude_le positive
  have coarse : (10 : ℚ) ^ (i.magnitude - 1) = 10 ^ (i.magnitude - 17) * 10 ^ 16 := by
    rw [← zpow_natCast, ← zpow_add₀ (by norm_num)]
    congr 1
    ring
  have width : (i.value : ℚ) < ((i.high : ℚ) - i.low) * 10 ^ 16 := by
    have ordered : i.low ≤ i.high := (h.low.trans h.high).le
    rw [← Nat.cast_sub ordered]
    exact_mod_cast h.width
  unfold upper lower
  rw [← sub_mul]
  have scaled := mul_lt_mul_of_pos_right width unit
  rw [coarse] at size
  nlinarith

/-- The search finds a decimal of the interval. -/
theorem Wide.holds_shortest (h : i.Wide) : i.Holds i.shortest.value := by
  obtain ⟨k, hk⟩ : ∃ k, k = i.magnitude := ⟨_, rfl⟩
  have last := neighbour?_isSome h.low h.high h.fine
  rw [← hk] at last
  obtain ⟨c, hc⟩ := Option.isSome_iff_exists.1 last
  unfold shortest
  dsimp only
  rw [← hk]
  cases found : (List.range 17).findSome? fun (n : ℕ) =>
      (i.neighbour? (k - ((n : ℕ) + 1 : ℤ))).map fun c => (⟨c, k - ((n : ℕ) + 1 : ℤ)⟩ : Decimal) with
  | none =>
    -- the last grid has a point in the interval
    have missed := List.findSome?_eq_none_iff.1 found 16 (by decide)
    rw [show k - (((16 : ℕ) : ℤ) + 1) = k - 17 by norm_num, hc] at missed
    cases missed
  | some x =>
    obtain ⟨n, -, hit⟩ := List.exists_of_findSome?_eq_some found
    obtain ⟨d, hd, rfl⟩ := Option.map_eq_some_iff.1 hit
    exact (contains_iff i _ d).1 (neighbour?_inside i _ d hd)

end Interval

/-! ## The decimals of doubles -/

/-- The interval of a double other than zero is wide enough for seventeen digits. -/
theorem wide_ofDouble {d : Double} (nonzero : d.isZero = false) : (Interval.ofDouble d).Wide := by
  have unit : twoTo 52 = 4503599627370496 := rfl
  have small : d.fraction < twoTo 52 := Nat.mod_lt _ (twoTo_pos 52)
  have payload : d.payload ≠ 0 := by simpa [Double.isZero] using nonzero
  have positive : 0 < d.significand := by
    unfold Double.significand Double.fraction Double.exponentField
    rw [unit]
    split
    · omega
    · omega
  have bound : d.significand < 9007199254740992 := by
    unfold Double.significand
    rw [unit] at small ⊢
    split <;> omega
  have narrow (h : d.isNarrowBelow = true) : d.significand = 4503599627370496 := by
    simp only [Double.isNarrowBelow, Bool.and_eq_true, beq_iff_eq, decide_eq_true_eq] at h
    rw [Double.significand, if_neg (by omega), h.1, unit]
  refine ⟨?_, ?_, ?_⟩
  · show 4 * d.significand - _ < 4 * d.significand
    split <;> omega
  · show 4 * d.significand < 4 * d.significand + 2
    omega
  · show 4 * d.significand < (4 * d.significand + 2 - (4 * d.significand - _)) * 10 ^ 16
    split
    · have := narrow ‹_›
      omega
    · omega

/-- The decimal of a double lies in the interval of the double. -/
theorem Decimal.holds_ofDouble (d : Double) :
    (Interval.ofDouble d).Holds (Decimal.ofDouble d).value := by
  unfold Decimal.ofDouble
  cases zero : d.isZero with
  | false => exact (wide_ofDouble zero).holds_shortest
  | true =>
    have payload : d.payload = 0 := by simpa [Double.isZero] using zero
    have none : d.significand = 0 := by
      rw [Double.significand, Double.exponentField, Double.fraction, payload]
      rfl
    have value : (⟨0, 0⟩ : Decimal).value = 0 := by simp [Decimal.value]
    have lower : (Interval.ofDouble d).lower = 0 := by simp [Interval.lower, Interval.ofDouble, none]
    have upper : 0 ≤ (Interval.ofDouble d).upper := by
      unfold Interval.upper
      positivity
    have closed : (Interval.ofDouble d).closed = true := by simp [Interval.ofDouble, none]
    rw [if_pos rfl, Interval.Holds, if_pos closed, value, lower]
    exact ⟨le_refl 0, upper⟩

end PooledSql.Number
