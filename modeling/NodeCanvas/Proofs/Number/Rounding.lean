import Mathlib.Algebra.Order.Field.Power
import Mathlib.Algebra.Ring.Parity
import Mathlib.Data.Nat.Log
import Mathlib.Data.Rat.Cast.Order
import Mathlib.Tactic.FieldSimp
import Mathlib.Tactic.Linarith
import Mathlib.Tactic.NormNum
import Mathlib.Tactic.Positivity
import Mathlib.Tactic.Ring
import NodeCanvas.Number.Double

namespace NodeCanvas.Double

/-- A nearest whole number, which is even where two are equally near. -/
def IsNearest (x : ℚ) (r : ℕ) : Prop :=
  x ≤ r + 1 / 2 ∧ r ≤ x + 1 / 2 ∧ (x = r + 1 / 2 → Even r) ∧ ((r : ℚ) = x + 1 / 2 → Even r)

theorem isNearest_natCast (n : ℕ) : IsNearest n n := by
  refine ⟨by linarith, by linarith, ?_, ?_⟩ <;> intro h <;> exfalso <;> linarith

theorem IsNearest.mono {x y : ℚ} {r t : ℕ} (hr : IsNearest x r) (ht : IsNearest y t)
    (h : x ≤ y) : r ≤ t := by
  obtain ⟨-, hrx, -, hreven⟩ := hr
  obtain ⟨hty, -, hteven, -⟩ := ht
  by_contra hlt
  have hlt : (t : ℚ) + 1 ≤ r := by exact_mod_cast Nat.lt_of_not_le hlt
  -- Both are a half away, from the same side, so both are even.
  have hr : (r : ℚ) = x + 1 / 2 := by linarith
  have ht : y = t + 1 / 2 := by linarith
  have hsucc : r = t + 1 := by
    have : (r : ℚ) = (t + 1 : ℕ) := by
      push_cast
      linarith
    exact_mod_cast this
  have hodd := hreven hr
  rw [hsucc, Nat.even_add_one] at hodd
  exact hodd (hteven ht)

theorem IsNearest.le {x : ℚ} {r m : ℕ} (h : IsNearest x r) (hx : x ≤ m) : r ≤ m :=
  h.mono (isNearest_natCast m) hx

theorem IsNearest.ge {x : ℚ} {r m : ℕ} (h : IsNearest x r) (hx : m ≤ x) : m ≤ r :=
  (isNearest_natCast m).mono h hx

theorem roundHalfEven_isNearest {num den : ℕ} (hden : 0 < den) :
    IsNearest (num / den) (roundHalfEven num den) := by
  have hpos : (0 : ℚ) < den := by exact_mod_cast hden
  have hdiv : (num : ℚ) = den * (num / den : ℕ) + (num % den : ℕ) := by
    exact_mod_cast (Nat.div_add_mod num den).symm
  have hx : (num / den : ℚ) = (num / den : ℕ) + (num % den : ℕ) / den := by
    rw [hdiv]
    field_simp
  have hmod : num % den < den := Nat.mod_lt _ hden
  rw [hx]
  unfold roundHalfEven
  generalize num / den = q at *
  generalize num % den = m at *
  have hquot : (0 : ℚ) ≤ m / den := by positivity
  dsimp only
  split
  · rename_i hlow
    have hlow : (m / den : ℚ) < 1 / 2 := by
      rw [div_lt_iff₀ hpos]
      have : (2 * m : ℚ) < den := by exact_mod_cast hlow
      linarith
    refine ⟨by linarith, by linarith, ?_, ?_⟩ <;> intro h <;> exfalso <;> linarith
  · split
    · rename_i hhigh
      have hhigh : (1 / 2 : ℚ) < m / den := by
        rw [lt_div_iff₀ hpos]
        have : (den : ℚ) < 2 * m := by exact_mod_cast hhigh
        linarith
      have hone : (m / den : ℚ) < 1 := by
        rw [div_lt_one hpos]
        exact_mod_cast hmod
      refine ⟨?_, ?_, ?_, ?_⟩ <;> push_cast <;> try intro h
      all_goals linarith
    · have htie : (m / den : ℚ) = 1 / 2 := by
        rw [div_eq_iff hpos.ne']
        have : (2 * m : ℚ) = den := by exact_mod_cast (show 2 * m = den by omega)
        linarith
      rw [htie]
      have heven : Even (q + q % 2) := by
        rw [Nat.even_iff]
        omega
      have hstep : q % 2 = 0 ∨ q % 2 = 1 := Nat.mod_two_eq_zero_or_one q
      refine ⟨?_, ?_, fun _ => heven, fun _ => heven⟩ <;> push_cast <;>
        rcases hstep with h | h <;> rw [h] <;> norm_num <;> linarith

/-- The place of the last binary digit is that of the leading one less the width of significands,
but never beyond that of the smallest double. -/
def IsPlace (x : ℚ) (place : ℤ) : Prop :=
  -1074 ≤ place ∧ x < 2 ^ (place + 53) ∧ (place = -1074 ∨ (2 : ℚ) ^ (place + 52) ≤ x)

theorem IsPlace.mono {x y : ℚ} {p q : ℤ} (hp : IsPlace x p) (hq : IsPlace y q) (h : x ≤ y) :
    p ≤ q := by
  obtain ⟨-, -, hpx⟩ := hp
  obtain ⟨hq, hyq, -⟩ := hq
  obtain rfl | hpx := hpx
  · exact hq
  · have hpow : (2 : ℚ) ^ (p + 52) < 2 ^ (q + 53) := by linarith
    have := (zpow_lt_zpow_iff_right₀ (by norm_num : (1 : ℚ) < 2)).mp hpow
    omega

theorem exists_shifted (num : ℕ) {den : ℕ} (hden : 0 < den) (e : ℤ) :
    ∃ n d : ℕ, 0 < d ∧ (n / d : ℚ) = num / den / 2 ^ e ∧ ∀ f : ℕ → ℕ → ℕ,
      (if 0 ≤ e then f num (den <<< e.toNat) else f (num <<< (-e).toNat) den) = f n d := by
  by_cases he : 0 ≤ e
  · obtain ⟨k, rfl⟩ := Int.eq_ofNat_of_zero_le he
    refine ⟨num, den <<< k, ?_, ?_, fun f => ?_⟩
    · rw [Nat.shiftLeft_eq]
      exact Nat.mul_pos hden (by positivity)
    · rw [Nat.shiftLeft_eq, div_div]
      push_cast
      rfl
    · simp
  · obtain ⟨k, hk⟩ := Int.eq_ofNat_of_zero_le (show 0 ≤ -e by omega)
    obtain rfl : e = -(k : ℤ) := by omega
    refine ⟨num <<< k, den, hden, ?_, fun f => ?_⟩
    · rw [Nat.shiftLeft_eq, zpow_neg, div_inv_eq_mul, zpow_natCast]
      push_cast
      ring
    · rw [if_neg he, neg_neg, Int.toNat_natCast]

/-- A quotient between the powers of two that the places of its two leading digits give. -/
theorem log2_bounds {num den : ℕ} (hnum : num ≠ 0) (hden : den ≠ 0) :
    (2 : ℚ) ^ ((Nat.log2 num : ℤ) - Nat.log2 den - 1) < num / den ∧
      (num / den : ℚ) < 2 ^ ((Nat.log2 num : ℤ) - Nat.log2 den + 1) := by
  have htwo : (2 : ℚ) ≠ 0 := by norm_num
  have hpos : (0 : ℚ) < den := by exact_mod_cast Nat.pos_of_ne_zero hden
  have hnumLow : (2 : ℚ) ^ (Nat.log2 num : ℤ) ≤ num := by exact_mod_cast Nat.log2_self_le hnum
  have hnumHigh : (num : ℚ) < 2 ^ (Nat.log2 num + 1 : ℤ) := by exact_mod_cast Nat.lt_log2_self
  have hdenLow : (2 : ℚ) ^ (Nat.log2 den : ℤ) ≤ den := by exact_mod_cast Nat.log2_self_le hden
  have hdenHigh : (den : ℚ) < 2 ^ (Nat.log2 den + 1 : ℤ) := by exact_mod_cast Nat.lt_log2_self
  generalize (Nat.log2 num : ℤ) = m at *
  generalize (Nat.log2 den : ℤ) = n at *
  constructor
  · rw [lt_div_iff₀ hpos]
    calc (2 : ℚ) ^ (m - n - 1) * den < 2 ^ (m - n - 1) * 2 ^ (n + 1) := by gcongr
      _ = 2 ^ m := by
          rw [← zpow_add₀ htwo]
          congr 1
          omega
      _ ≤ num := hnumLow
  · rw [div_lt_iff₀ hpos]
    calc (num : ℚ) < 2 ^ (m + 1) := hnumHigh
      _ = 2 ^ (m - n + 1) * 2 ^ n := by
          rw [← zpow_add₀ htwo]
          congr 1
          omega
      _ ≤ 2 ^ (m - n + 1) * den := by gcongr

theorem lastPlace_isPlace {num den : ℕ} (hden : 0 < den) :
    IsPlace (num / den) (lastPlace num den) := by
  by_cases hnum : num = 0
  · subst hnum
    rw [lastPlace]
    refine ⟨?_, ?_, .inl rfl⟩ <;> simp
  obtain ⟨hlow, hhigh⟩ := log2_bounds hnum hden.ne'
  rw [lastPlace, if_neg hnum]
  generalize hguess : (Nat.log2 num : ℤ) - Nat.log2 den - 53 = guess
  obtain ⟨n, d, hd, hquot, hshift⟩ := exists_shifted num hden guess
  have hpos : (0 : ℚ) < d := by exact_mod_cast hd
  have hpow : (0 : ℚ) < 2 ^ guess := by positivity
  have hlarge : 1 <<< 53 ≤ n / d ↔ (2 : ℚ) ^ (guess + 53) ≤ num / den := by
    rw [Nat.le_div_iff_mul_le hd, zpow_add₀ (by norm_num), ← le_div_iff₀' hpow, ← hquot,
      le_div_iff₀ hpos, Nat.one_shiftLeft, ← @Nat.cast_le ℚ]
    norm_num
  simp only [hshift (· / ·), hlarge]
  -- The guess is right or one too small.
  have hplace : ∀ place : ℤ, (num / den : ℚ) < 2 ^ (place + 53) →
      (2 : ℚ) ^ (place + 52) ≤ num / den → IsPlace (num / den) (Max.max (-1074) place) := by
    intro place hbelow hreach
    refine ⟨le_max_left _ _, hbelow.trans_le ?_, ?_⟩
    · exact zpow_le_zpow_right₀ (by norm_num) (by omega)
    · by_cases hmin : place ≤ -1074
      · exact .inl (max_eq_left hmin)
      · rw [max_eq_right (by omega)]
        exact .inr hreach
  split
  · rename_i h
    refine hplace _ ?_ ?_
    · rwa [show guess + 1 + 53 = (Nat.log2 num : ℤ) - Nat.log2 den + 1 by omega]
    · rwa [show guess + 1 + 52 = guess + 53 by omega]
  · rename_i h
    refine hplace _ (not_le.mp h) ?_
    rw [show guess + 52 = (Nat.log2 num : ℤ) - Nat.log2 den - 1 by omega]
    exact hlow.le

/-- The rank that a magnitude is rounded to. -/
def RoundsTo (x : ℚ) (rank : ℕ) : Prop :=
  ∃ (place : ℤ) (steps : ℕ), IsPlace x place ∧ IsNearest (x / 2 ^ place) steps ∧
    rank = (place + 1074).toNat * 2 ^ 52 + steps

theorem ofRatio_roundsTo (negative : Bool) (num : ℕ) {den : ℕ} (hden : 0 < den) :
    ∃ rank, RoundsTo (num / den) rank ∧ ofRatio negative num den = ofRank negative rank := by
  have hplace := @lastPlace_isPlace num den hden
  unfold ofRatio
  generalize lastPlace num den = place at *
  obtain ⟨n, d, hd, hquot, hshift⟩ := exists_shifted num hden place
  refine ⟨_, ⟨place, roundHalfEven n d, hplace, ?_, rfl⟩, ?_⟩
  · rw [← hquot]
    exact roundHalfEven_isNearest hd
  · dsimp only
    rw [hshift roundHalfEven, Nat.shiftLeft_eq]

theorem RoundsTo.mono {x y : ℚ} {r t : ℕ} (hr : RoundsTo x r) (ht : RoundsTo y t) (h : x ≤ y) :
    r ≤ t := by
  obtain ⟨p, m, hp, hm, rfl⟩ := hr
  obtain ⟨q, n, hq, hn, rfl⟩ := ht
  obtain rfl | hlt := (hp.mono hq h).eq_or_lt
  · have hsteps : m ≤ n := hm.mono hn (by gcongr)
    omega
  · -- One place further the steps start over at the middle.
    have hsmall : m ≤ 2 ^ 53 := by
      refine hm.le ?_
      rw [div_le_iff₀ (by positivity)]
      have hbound := hp.2.1
      rw [zpow_add₀ (by norm_num)] at hbound
      push_cast
      linarith
    have hlarge : 2 ^ 52 ≤ n := by
      refine hn.ge ?_
      have hreach := hq.2.2.resolve_left (by have := hp.1; omega)
      rw [le_div_iff₀ (by positivity)]
      rw [zpow_add₀ (by norm_num)] at hreach
      push_cast
      linarith
    have hp := hp.1
    omega

theorem isSome_ofRank {negative : Bool} {rank : ℕ} :
    (ofRank negative rank).isSome ↔ rank < 2047 <<< 52 := by
  unfold ofRank
  split
  · exact iff_of_true rfl ‹_›
  · exact iff_of_false Bool.false_ne_true ‹_›

def size (d : Double) : ℚ := d.significand * 2 ^ d.exponent

theorem size_eq (d : Double) : (d.magnitude.1 / d.magnitude.2 : ℚ) = d.size := by
  unfold magnitude size
  split
  · rename_i h
    obtain ⟨k, hk⟩ := Int.eq_ofNat_of_zero_le h
    simp [hk, Nat.shiftLeft_eq]
  · rename_i h
    obtain ⟨k, hk⟩ := Int.eq_ofNat_of_zero_le (show 0 ≤ -d.exponent by omega)
    have hexp : d.exponent = -(k : ℤ) := by omega
    simp [hexp, Nat.shiftLeft_eq, div_eq_mul_inv]

theorem magnitude_pos (d : Double) : 0 < d.magnitude.2 := by
  unfold magnitude
  split <;> simp [Nat.shiftLeft_eq]

theorem exponent_mono {a b : Double} (h : a.rank ≤ b.rank) :
    a.exponent < b.exponent ∧ a.significand < 2 ^ 53 ∧ 2 ^ 52 ≤ b.significand ∨
      a.exponent = b.exponent ∧ a.significand ≤ b.significand := by
  simp only [exponent, significand, Nat.one_shiftLeft, Nat.shiftRight_eq_div_pow]
  split <;> split <;> omega

theorem size_le_size {a b : Double} (h : a.rank ≤ b.rank) : a.size ≤ b.size := by
  unfold size
  obtain ⟨hexp, ha, hb⟩ | ⟨hexp, hsig⟩ := exponent_mono h
  · have ha : (a.significand : ℚ) ≤ 2 ^ 53 := by exact_mod_cast ha.le
    have hb : (2 ^ 52 : ℚ) ≤ b.significand := by exact_mod_cast hb
    have hpow : (2 : ℚ) ^ (a.exponent + 1) ≤ 2 ^ b.exponent :=
      zpow_le_zpow_right₀ (by norm_num) hexp
    calc a.significand * (2 : ℚ) ^ a.exponent ≤ 2 ^ 53 * 2 ^ a.exponent := by gcongr
      _ = 2 ^ 52 * 2 ^ (a.exponent + 1) := by
          rw [zpow_add₀ (by norm_num)]
          ring
      _ ≤ b.significand * 2 ^ b.exponent := by gcongr
  · rw [hexp]
    gcongr

theorem mul_eq (a b : Double) : a.mul b = ofRatio (a.negative != b.negative)
    (a.magnitude.1 * b.magnitude.1) (a.magnitude.2 * b.magnitude.2) := rfl

theorem isSome_mul_of_le {a a' b b' : Double} (ha : a.rank ≤ a'.rank) (hb : b.rank ≤ b'.rank)
    (h : (a'.mul b').isSome) : (a.mul b).isSome := by
  have hpos (c e : Double) : 0 < c.magnitude.2 * e.magnitude.2 :=
    Nat.mul_pos c.magnitude_pos e.magnitude_pos
  obtain ⟨r, hr, heq⟩ := ofRatio_roundsTo (a.negative != b.negative)
    (a.magnitude.1 * b.magnitude.1) (hpos a b)
  obtain ⟨t, ht, heq'⟩ := ofRatio_roundsTo (a'.negative != b'.negative)
    (a'.magnitude.1 * b'.magnitude.1) (hpos a' b')
  rw [mul_eq, heq', isSome_ofRank] at h
  rw [mul_eq, heq, isSome_ofRank]
  refine lt_of_le_of_lt (hr.mono ht ?_) h
  push_cast
  rw [mul_div_mul_comm, mul_div_mul_comm, size_eq, size_eq, size_eq, size_eq]
  have hsize := size_le_size ha
  have hsize' := size_le_size hb
  have hnonneg (d : Double) : 0 ≤ d.size := by
    unfold size
    positivity
  exact mul_le_mul hsize hsize' (hnonneg b) (hnonneg a')

theorem rank_getD_ofRank (negative : Bool) (rank : ℕ) :
    ((ofRank negative rank).getD (largest negative)).rank = min rank ((2047 <<< 52) - 1) := by
  unfold ofRank
  split
  · show rank = min rank ((2047 <<< 52) - 1)
    omega
  · show (2047 <<< 52) - 1 = min rank ((2047 <<< 52) - 1)
    omega

theorem rank_ofNat_le {m n : ℕ} (h : m ≤ n) : (ofNat m).rank ≤ (ofNat n).rank := by
  obtain ⟨r, hr, heq⟩ := ofRatio_roundsTo (decide ((m : ℤ) < 0)) m Nat.one_pos
  obtain ⟨t, ht, heq'⟩ := ofRatio_roundsTo (decide ((n : ℤ) < 0)) n Nat.one_pos
  simp only [ofNat, ofInt, Int.natAbs_natCast, heq, heq', rank_getD_ofRank]
  have hrank : r ≤ t := hr.mono ht (by gcongr)
  omega

end NodeCanvas.Double
