import Mathlib.Data.Nat.Cast.Order.Field
import NodeCanvas.Number.Shortest
import NodeCanvas.Proofs.Number.Rounding

namespace NodeCanvas

namespace Decimal

def value (d : Decimal) : ℚ := d.digits * 10 ^ d.exponent

theorem trimZeros_spec (fuel : ℕ) {d : Decimal} (h : 0 < d.digits) :
    0 < (d.trimZeros fuel).digits ∧ (d.trimZeros fuel).digits ≤ d.digits ∧
      (d.trimZeros fuel).value = d.value := by
  induction fuel generalizing d with
  | zero => exact ⟨h, le_rfl, rfl⟩
  | succ fuel ih =>
      rw [trimZeros]
      split
      · rename_i hzero
        have hten : d.digits = d.digits / 10 * 10 := by omega
        obtain ⟨hpos, hle, hvalue⟩ :=
          @ih ⟨d.digits / 10, d.exponent + 1⟩ (show 0 < d.digits / 10 by omega)
        refine ⟨hpos, hle.trans (Nat.div_le_self _ _), ?_⟩
        have hdigits : (d.digits : ℚ) = (d.digits / 10 : ℕ) * 10 := by exact_mod_cast hten
        rw [hvalue, value, value, hdigits, zpow_add₀ (by norm_num)]
        ring
      · exact ⟨h, le_rfl, rfl⟩

end Decimal

namespace Double

theorem lt_leadingPlace {num den : ℕ} (hnum : 0 < num) (hden : 0 < den) :
    (num / den : ℚ) < 10 ^ (leadingPlace num den + 1) := by
  have hlength (n : ℕ) : n < 10 ^ (Nat.toDigits 10 n).length :=
    (Nat.length_toDigits_le_iff (by norm_num) Nat.length_toDigits_pos).mp le_rfl
  have hpos : (0 : ℚ) < den := by exact_mod_cast hden
  rw [div_lt_iff₀ hpos, leadingPlace]
  split
  · rename_i hle
    have hlt := (Nat.div_lt_iff_lt_mul hden).mp (hlength (num / den))
    rw [sub_add_cancel, zpow_natCast]
    exact_mod_cast hlt
  · rename_i hlt
    dsimp only
    generalize hplaces : (Nat.toDigits 10 (den / num)).length = places
    have hpositive : 0 < places := hplaces ▸ Nat.length_toDigits_pos
    obtain ⟨k, rfl⟩ := Nat.exists_eq_succ_of_ne_zero hpositive.ne'
    have hpow : (0 : ℚ) < 10 ^ k := by positivity
    rw [Nat.succ_sub_one, Nat.pow_eq]
    split
    · have hreach : 10 ^ k ≤ den / num := by
        obtain rfl | hk := Nat.eq_zero_or_pos k
        · rw [Nat.le_div_iff_mul_le hnum]
          omega
        · by_contra hsmall
          have := (Nat.length_toDigits_le_iff (by norm_num) hk).mpr (not_le.mp hsmall)
          omega
      have hreach : (10 : ℚ) ^ k * num ≤ den := by
        exact_mod_cast (Nat.le_div_iff_mul_le hnum).mp hreach
      rw [show (1 - (k.succ : ℤ) + 1) = 1 - k by push_cast; ring, zpow_sub₀ (by norm_num),
        zpow_natCast, zpow_one, div_mul_eq_mul_div, lt_div_iff₀ hpow]
      linarith
    · rename_i hbeyond
      have hbeyond : (num : ℚ) * 10 ^ k < den := by exact_mod_cast not_le.mp hbeyond
      rw [show (-(k.succ : ℤ) + 1) = -k by push_cast; ring, zpow_neg, zpow_natCast,
        inv_mul_eq_div, lt_div_iff₀ hpow]
      exact hbeyond

theorem pow_neg_toNat_mul_zpow {b : ℚ} (hb : b ≠ 0) (z : ℤ) :
    b ^ (-z).toNat * b ^ z = b ^ z.toNat := by
  rw [← zpow_natCast, ← zpow_natCast, ← zpow_add₀ hb]
  congr 1
  omega

/-- The two units stand to one another as their places do. -/
theorem commonUnits_spec (d : Double) (place : ℤ) :
    0 < (d.commonUnits place).1 ∧ 0 < (d.commonUnits place).2 ∧
      ((d.commonUnits place).1 : ℚ) * 10 ^ place =
        (d.commonUnits place).2 * 2 ^ (d.exponent - 2) := by
  unfold commonUnits
  dsimp only
  generalize d.exponent - 2 = q
  simp only [Nat.shiftLeft_eq, Nat.pow_eq]
  refine ⟨by positivity, by positivity, ?_⟩
  have hten := pow_neg_toNat_mul_zpow (show (10 : ℚ) ≠ 0 by norm_num) place
  have htwo := pow_neg_toNat_mul_zpow (show (2 : ℚ) ≠ 0 by norm_num) q
  push_cast
  calc (10 : ℚ) ^ (-place).toNat * 2 ^ q.toNat * 10 ^ place
      = (10 ^ (-place).toNat * 10 ^ place) * 2 ^ q.toNat := by ring
    _ = 10 ^ place.toNat * (2 ^ (-q).toNat * 2 ^ q) := by rw [hten, htwo]
    _ = 10 ^ place.toNat * 2 ^ (-q).toNat * 2 ^ q := by ring

theorem significand_pos {d : Double} (h : 0 < d.rank) : 0 < d.significand := by
  simp only [significand, Nat.one_shiftLeft]
  split <;> omega

theorem magnitude_fst_pos {d : Double} (h : 0 < d.rank) : 0 < d.magnitude.1 := by
  have hsig := significand_pos h
  unfold magnitude
  split
  · rw [Nat.shiftLeft_eq]
    positivity
  · exact hsig

theorem le_of_readsBack {closed : Bool} {low n high : ℕ}
    (h : (if closed then decide (low ≤ n ∧ n ≤ high) else decide (low < n ∧ n < high)) = true) :
    low ≤ n ∧ n ≤ high := by
  split at h <;> simp at h <;> omega

/-- A multiple that reads back is between the ends, and at most the next one. -/
theorem onGrid?_bounds {d : Double} {tie : Tie} {place : ℤ} {n : ℕ}
    (h : d.onGrid? tie place = some n) :
    d.rounding.below * (d.commonUnits place).1 ≤ n * (d.commonUnits place).2 ∧
      n * (d.commonUnits place).2 ≤ d.rounding.above * (d.commonUnits place).1 ∧
      n ≤ d.rounding.value * (d.commonUnits place).1 / (d.commonUnits place).2 + 1 := by
  unfold onGrid? at h
  dsimp only at h
  split at h
  · rename_i hlow hhigh
    have hlow := le_of_readsBack hlow
    have hhigh := le_of_readsBack hhigh
    cases h
    split
    · exact ⟨hhigh.1, hhigh.2, le_rfl⟩
    · exact ⟨hlow.1, hlow.2, Nat.le_succ _⟩
  · rename_i hlow _
    have hlow := le_of_readsBack hlow
    cases h
    exact ⟨hlow.1, hlow.2, Nat.le_succ _⟩
  · rename_i _ hhigh
    have hhigh := le_of_readsBack hhigh
    cases h
    exact ⟨hhigh.1, hhigh.2, le_rfl⟩
  · cases h

theorem onGrid?_spec {d : Double} {tie : Tie} {place : ℤ} {n : ℕ} (hrank : 0 < d.rank)
    (h : d.onGrid? tie place = some n) :
    0 < n ∧ (n : ℚ) * 10 ^ place ≤ (d.significand + 1 / 2) * 2 ^ d.exponent ∧
      ((n : ℚ) - 1) * 10 ^ place ≤ d.size := by
  obtain ⟨hbelow, habove, hnext⟩ := onGrid?_bounds h
  obtain ⟨hquarter, hstep, hunits⟩ := d.commonUnits_spec place
  generalize (d.commonUnits place).1 = quarter at *
  generalize (d.commonUnits place).2 = step at *
  have hsig := significand_pos hrank
  have hpow : (0 : ℚ) < 10 ^ place := by positivity
  have hpos : (0 : ℚ) < quarter := by exact_mod_cast hquarter
  have hexp : (2 : ℚ) ^ d.exponent = 4 * 2 ^ (d.exponent - 2) := by
    rw [zpow_sub₀ (by norm_num)]
    ring
  -- A multiple of the step is a number of quarters, up to the factor between the units.
  have hscale (x y : ℚ) (hxy : x * step ≤ y * quarter) :
      x * 10 ^ place ≤ y * 2 ^ (d.exponent - 2) := by
    have := mul_le_mul_of_nonneg_right hxy hpow.le
    refine le_of_mul_le_mul_right ?_ hpos
    calc x * 10 ^ place * quarter = x * (quarter * 10 ^ place) := by ring
      _ = x * step * 2 ^ (d.exponent - 2) := by rw [hunits]; ring
      _ ≤ y * quarter * 2 ^ (d.exponent - 2) := by gcongr
      _ = y * 2 ^ (d.exponent - 2) * quarter := by ring
  refine ⟨?_, ?_, ?_⟩
  · have hpositive : 0 < d.rounding.below := by
      unfold rounding
      dsimp only
      split <;> omega
    have : 0 < n * step := (Nat.mul_pos hpositive hquarter).trans_le hbelow
    exact Nat.pos_of_mul_pos_right this
  · have habove : (n : ℚ) * step ≤ d.rounding.above * quarter := by exact_mod_cast habove
    refine (hscale _ _ habove).trans_eq ?_
    rw [hexp, rounding]
    push_cast
    ring
  · have hnext : (n : ℚ) - 1 ≤ d.rounding.value * quarter / step := by
      have : (n : ℚ) ≤ (d.rounding.value * quarter / step : ℕ) + 1 := by exact_mod_cast hnext
      have hdiv := @Nat.cast_div_le ℚ _ _ _ (d.rounding.value * quarter) step
      push_cast at hdiv
      linarith
    have hnext := hscale ((n : ℚ) - 1) d.rounding.value
      ((le_div_iff₀ (by exact_mod_cast hstep)).mp hnext)
    refine hnext.trans_eq ?_
    rw [size, hexp, rounding]
    push_cast
    ring

/-- The digits are none, or at most seventeen with what they name at most half a place above the
number. -/
theorem shortest_spec (d : Double) (tie : Tie) :
    d.shortest tie = ⟨0, 0⟩ ∨ 0 < (d.shortest tie).digits ∧
      (d.shortest tie).digits ≤ 10 ^ 17 ∧
      (d.shortest tie).value ≤ (d.significand + 1 / 2) * 2 ^ d.exponent := by
  unfold shortest
  split
  · exact .inl rfl
  rename_i hrank
  have hrank := Nat.pos_of_ne_zero hrank
  dsimp only
  generalize hlead : leadingPlace d.magnitude.1 d.magnitude.2 = lead
  cases hfound : (List.range 17).findSome? fun k : ℕ =>
      (d.onGrid? tie (lead - k)).map fun n => Decimal.mk n (lead - k) with
  | none => exact .inl rfl
  | some decimal =>
      right
      obtain ⟨k, hk, hdecimal⟩ := List.exists_of_findSome?_eq_some hfound
      obtain ⟨n, hn, rfl⟩ := Option.map_eq_some_iff.mp hdecimal
      obtain ⟨hpos, habove, hnext⟩ := onGrid?_spec hrank hn
      obtain ⟨htrimPos, htrimLe, htrimValue⟩ :=
        @Decimal.trimZeros_spec 20 ⟨n, lead - k⟩ hpos
      rw [Option.getD_some]
      refine ⟨htrimPos, htrimLe.trans ?_, htrimValue.trans_le habove⟩
      have hsize : d.size < 10 ^ (lead + 1) := by
        rw [← d.size_eq, ← hlead]
        exact lt_leadingPlace (magnitude_fst_pos hrank) d.magnitude_pos
      have hten : (10 : ℚ) ^ (lead + 1) = 10 ^ (k + 1 : ℤ) * 10 ^ (lead - k) := by
        rw [← zpow_add₀ (by norm_num)]
        congr 1
        ring
      have hbelow : (n : ℚ) - 1 < 10 ^ (k + 1 : ℤ) := by
        refine lt_of_mul_lt_mul_right ?_ (show (0 : ℚ) ≤ 10 ^ (lead - k) by positivity)
        rw [← hten]
        exact hnext.trans_lt hsize
      have hbelow : n < 10 ^ (k + 1) + 1 := by
        have : (n : ℚ) < (10 ^ (k + 1) + 1 : ℕ) := by
          push_cast
          exact_mod_cast sub_lt_iff_lt_add.mp hbelow
        exact_mod_cast this
      have hpow : 10 ^ (k + 1) ≤ 10 ^ 17 :=
        Nat.pow_le_pow_right (by norm_num) (List.mem_range.mp hk)
      show n ≤ 10 ^ 17
      omega

end Double

end NodeCanvas
