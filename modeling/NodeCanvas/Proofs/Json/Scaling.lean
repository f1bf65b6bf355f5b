import NodeCanvas.Json.Numeral
import NodeCanvas.Proofs.Number.Shortest

/-!
The scaling of the digits of a numeral by its power of ten. The shortest digits of a double never
leave the range, although the scaled number is not always the double itself.
-/
namespace NodeCanvas.Json.Numeral

theorem isSome_scaled_of_neg {leading : ℕ} {power : ℤ} (h : power < 0) :
    (scaled leading power).isSome := by
  rw [scaled, if_pos h]
  rfl

theorem scaled_natCast (leading : ℕ) {power : ℕ} (h : power ≤ 308) :
    scaled leading power = (Double.ofDecimal false 1 power).bind (Double.ofNat leading).mul := by
  unfold scaled
  dsimp only
  rw [if_neg (by omega), if_pos (by omega)]

theorem ofDecimal_roundsTo {power : ℕ} (h : power ≤ 308) :
    ∃ rank, Double.RoundsTo ((10 ^ power : ℕ) / (1 : ℕ)) rank ∧
      Double.ofDecimal false 1 power = Double.ofRank false rank := by
  obtain ⟨rank, hrank, heq⟩ := Double.ofRatio_roundsTo false (1 * Nat.pow 10 power) Nat.one_pos
  rw [Nat.one_mul] at hrank heq
  refine ⟨rank, hrank, ?_⟩
  rw [← heq, Double.ofDecimal]
  have hlength : (Nat.toDigits 10 1).length = 1 := rfl
  simp only [hlength, Int.toNat_natCast, Nat.one_mul]
  rw [if_neg (by omega), if_neg (by omega), if_pos (by omega)]

/-- Fewer and lower places name no larger double. -/
theorem isSome_scaled_of_le {m n p q : ℕ} (h : m ≤ n) (hpq : p ≤ q) (hq : q ≤ 308)
    (hn : (scaled n q).isSome) : (scaled m p).isSome := by
  obtain ⟨r, hr, heq⟩ := ofDecimal_roundsTo (hpq.trans hq)
  obtain ⟨t, ht, heq'⟩ := ofDecimal_roundsTo hq
  have hrank : r ≤ t := by
    refine hr.mono ht ?_
    gcongr
    norm_num
  rw [scaled_natCast m (hpq.trans hq), heq, Double.ofRank]
  rw [scaled_natCast n hq, heq', Double.ofRank] at hn
  split at hn
  · rw [dif_pos (by omega)]
    exact Double.isSome_mul_of_le (Double.rank_ofNat_le h) hrank hn
  · cases hn

/-- What the shortest digits of the doubles below the largest one can be at a power of ten. -/
def limit (power : ℕ) : ℕ := min (10 ^ 17) ((2 ^ 54 - 3) * 2 ^ 970 / 10 ^ power)

theorem isSome_scaled_limit {power : ℕ} (h : power ≤ 308) :
    (scaled (limit power) power).isSome := by
  -- The number of digits is the bound at first, and the largest double is from then on.
  have many : (scaled (10 ^ 17) (291 : ℕ)).isSome := by decide +kernel
  have few : ∀ k ∈ List.range 17, (scaled (limit (292 + k)) (292 + k : ℕ)).isSome := by
    decide +kernel
  by_cases hsmall : power ≤ 291
  · exact isSome_scaled_of_le (min_le_left _ _) hsmall (by norm_num) many
  · have hlarge := few (power - 292) (List.mem_range.mpr (by omega))
    rwa [show 292 + (power - 292) = power by omega] at hlarge

theorem shortest_largest (negative : Bool) :
    (Double.largest negative).shortest .even = ⟨17976931348623157, 292⟩ := by
  cases negative <;> decide +kernel

theorem half_above_le {d : Double} (h : d.rank < (2047 <<< 52) - 1) :
    (d.significand + 1 / 2 : ℚ) * 2 ^ d.exponent ≤ (2 ^ 54 - 3 : ℕ) * 2 ^ (970 : ℤ) := by
  have hparts : d.exponent ≤ 970 ∧ d.significand + 1 ≤ 2 ^ 53 ∨
      d.exponent = 971 ∧ d.significand + 2 ≤ 2 ^ 53 := by
    simp only [Double.exponent, Double.significand, Nat.one_shiftLeft,
      Nat.shiftRight_eq_div_pow]
    split <;> omega
  have hpos : (0 : ℚ) < 2 ^ (970 : ℤ) := zpow_pos (by norm_num) 970
  obtain ⟨hexp, hsig⟩ | ⟨hexp, hsig⟩ := hparts
  · have hsig : (d.significand + 1 : ℚ) ≤ 2 ^ 53 := by exact_mod_cast hsig
    have hle : (2 : ℚ) ^ d.exponent ≤ 2 ^ (970 : ℤ) := zpow_le_zpow_right₀ (by norm_num) hexp
    have hmiddle : (d.significand + 1 / 2 : ℚ) ≤ (2 ^ 54 - 3 : ℕ) := by
      norm_num
      linarith
    exact mul_le_mul hmiddle hle (by positivity) (by positivity)
  · have hsig : (d.significand + 2 : ℚ) ≤ 2 ^ 53 := by exact_mod_cast hsig
    rw [hexp, show (971 : ℤ) = 970 + 1 by rfl, zpow_add_one₀ (by norm_num), ← mul_assoc,
      mul_right_comm]
    refine mul_le_mul_of_nonneg_right ?_ hpos.le
    norm_num
    linarith

/-- The shortest digits of a double fit 64 bits, and the double that they name when they are read
is finite. -/
theorem shortest_readable (d : Double) :
    d.shortest .even = ⟨0, 0⟩ ∨ 0 < (d.shortest .even).digits ∧
      (d.shortest .even).digits ≤ 10 ^ 17 ∧ (d.shortest .even).exponent ≤ 308 ∧
      (scaled (d.shortest .even).digits (d.shortest .even).exponent).isSome := by
  by_cases hmax : d.rank = (2047 <<< 52) - 1
  · have hd : d = Double.largest d.negative := by
      obtain ⟨negative, rank, hlt⟩ := d
      subst hmax
      rfl
    rw [hd, shortest_largest]
    exact .inr (by decide +kernel)
  obtain hzero | ⟨hpos, hdigits, hvalue⟩ := d.shortest_spec .even
  · exact .inl hzero
  right
  have hvalue := hvalue.trans (half_above_le (by have := d.rank_lt; omega))
  generalize d.shortest .even = decimal at *
  refine ⟨hpos, hdigits, ?_⟩
  by_cases hneg : decimal.exponent < 0
  · exact ⟨by omega, isSome_scaled_of_neg hneg⟩
  obtain ⟨k, hk⟩ := Int.eq_ofNat_of_zero_le (not_lt.mp hneg)
  rw [Decimal.value, hk, zpow_natCast, show (970 : ℤ) = (970 : ℕ) from rfl, zpow_natCast] at hvalue
  have hvalue : decimal.digits * 10 ^ k ≤ (2 ^ 54 - 3) * 2 ^ 970 := by exact_mod_cast hvalue
  have hsmall : k ≤ 308 := by
    by_contra hlarge
    have hpow := pow_le_pow_right₀ (show 1 ≤ 10 by decide) (show 309 ≤ k by omega)
    have hone : 10 ^ k ≤ decimal.digits * 10 ^ k := Nat.le_mul_of_pos_left _ hpos
    have hbig : (2 ^ 54 - 3) * 2 ^ 970 < 10 ^ 309 := by decide +kernel
    exact absurd (hpow.trans (hone.trans hvalue)) (not_le.mpr hbig)
  rw [hk]
  refine ⟨by omega, isSome_scaled_of_le ?_ le_rfl hsmall (isSome_scaled_limit hsmall)⟩
  exact le_min hdigits ((Nat.le_div_iff_mul_le (by positivity)).mpr hvalue)

end NodeCanvas.Json.Numeral
