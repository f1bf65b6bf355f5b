import NodeCanvas.Form.Edit
import NodeCanvas.Proofs.Number.Shortest

namespace NodeCanvas

namespace Double

theorem exponent_spec (d : Double) :
    -1074 ≤ d.exponent ∧ d.significand < 2 ^ 53 ∧
      (d.exponent = -1074 ∨ 2 ^ 52 ≤ d.significand) ∧
      d.rank = (d.exponent + 1074).toNat * 2 ^ 52 + d.significand := by
  simp only [exponent, significand, Nat.one_shiftLeft, Nat.shiftRight_eq_div_pow]
  split <;> omega

theorem roundsTo_size (d : Double) : RoundsTo d.size d.rank := by
  obtain ⟨hmin, hbelow, hreach, hrank⟩ := d.exponent_spec
  have hpow : (0 : ℚ) < 2 ^ d.exponent := by positivity
  refine ⟨d.exponent, d.significand, ⟨hmin, ?_, hreach.imp_right ?_⟩, ?_, hrank⟩
  · have hbelow : (d.significand : ℚ) < 2 ^ 53 := by exact_mod_cast hbelow
    rw [size, zpow_add₀ (by norm_num), mul_comm]
    exact mul_lt_mul_of_pos_left hbelow hpow
  · intro hreach
    have hreach : (2 ^ 52 : ℚ) ≤ d.significand := by exact_mod_cast hreach
    rw [size, zpow_add₀ (by norm_num), mul_comm]
    exact mul_le_mul_of_nonneg_right hreach hpow.le
  · rw [size, mul_div_cancel_right₀ _ hpow.ne']
    exact isNearest_natCast d.significand

theorem ofRatio_of_eq_size {d : Double} (negative : Bool) {num den : ℕ} (hden : 0 < den)
    (h : (num / den : ℚ) = d.size) :
    ofRatio negative num den = some { d with negative := negative } := by
  obtain ⟨rank, hrank, heq⟩ := ofRatio_roundsTo negative num hden
  rw [h] at hrank
  obtain rfl : rank = d.rank :=
    le_antisymm (hrank.mono d.roundsTo_size le_rfl) (d.roundsTo_size.mono hrank le_rfl)
  rw [heq, ofRank, dif_pos d.rank_lt]

/-- A whole double is the one nearest to the whole number that it is. -/
theorem key_ofInt {d : Double} {n : Int} (h : d.toInt? = some n) : (ofInt n).key = d.key := by
  unfold toInt? at h
  dsimp only at h
  split at h
  · rename_i hwhole
    obtain ⟨q, hq⟩ := Nat.dvd_of_mod_eq_zero hwhole
    have hden := d.magnitude_pos
    rw [hq, Nat.mul_div_cancel_left q hden] at h
    have hsize : (q / (1 : ℕ) : ℚ) = d.size := by
      rw [← size_eq, hq]
      push_cast
      field_simp
    have hzero : q = 0 → d.rank = 0 := by
      intro hnone
      by_contra hrank
      have := magnitude_fst_pos (Nat.pos_of_ne_zero hrank)
      simp [hq, hnone] at this
    have habs : n.natAbs = q := by
      cases h
      split <;> simp
    have hnegative : n < 0 ↔ d.negative = true ∧ q ≠ 0 := by
      cases h
      split <;> simp_all
      omega
    rw [ofInt, habs, ofRatio_of_eq_size _ Nat.one_pos hsize]
    simp only [Option.getD_some, key, decide_eq_true_eq, hnegative]
    grind
  · cases h

end Double

/-- What is stored for a number reads as that number, and as zero for one that is not finite. -/
theorem Json.exists_number_ofTyped (a : Binary64) :
    ∃ shown, (Json.ofTyped a).number? = some shown ∧
      some shown.key = (a.finiteOr .zero).key? := by
  cases a with
  | finite d =>
      cases hwhole : d.toInt? with
      | none => exact ⟨d, by simp [ofTyped, hwhole, number?, Number.toDouble], rfl⟩
      | some n =>
          by_cases hsmall : n.natAbs < 9000000000000000
          · refine ⟨.ofInt n, ?_, congrArg some (Double.key_ofInt hwhole)⟩
            simp [ofTyped, hwhole, hsmall, number?, Number.toDouble]
          · exact ⟨d, by simp [ofTyped, hwhole, hsmall, number?, Number.toDouble], rfl⟩
  | infinite _ | nan =>
      have hzero : some (Double.ofInt 0).key = Binary64.zero.key? := by decide +kernel
      exact ⟨.ofInt 0, rfl, hzero⟩

end NodeCanvas
