import NodeCanvas.Proofs.Number.Whole

namespace NodeCanvas

theorem Double.key_bounds (d : Double) :
    -(Binary64.infiniteRank : Int) < d.key ∧ d.key < Binary64.infiniteRank := by
  have hrank : d.rank < Binary64.infiniteRank := d.rank_lt
  unfold key
  split <;> omega

namespace Binary64

variable {a b d low high : Binary64} {x y l h : Int}

theorem key?_eq_none_iff : a.key? = none ↔ a = .nan := by
  cases a <;> simp [key?]

theorem exists_key (hnumber : a ≠ .nan) : ∃ x, a.key? = some x :=
  Option.ne_none_iff_exists'.mp (mt key?_eq_none_iff.mp hnumber)

theorem beq_iff_key : (a == b) = true ↔ ∃ x, a.key? = some x ∧ b.key? = some x := by
  show (a.key?.isSome && a.key? == b.key?) = true ↔ _
  cases a.key? with
  | none => simp
  | some x =>
      simp only [Option.isSome_some, Bool.true_and, beq_iff_eq, Option.some.injEq, exists_eq_left']
      exact eq_comm

/-- A number that is no finite one has a key at an end of all keys. -/
theorem key_eq_of_not_isFinite (hkey : a.key? = some x) (hfinite : a.isFinite = false) :
    x = -(infiniteRank : Int) ∨ x = infiniteRank := by
  cases a with
  | finite d => cases hfinite
  | infinite negative => cases negative <;> simp_all [key?]
  | nan => cases hkey

theorem key?_max (ha : a.key? = some x) (hb : b.key? = some y) :
    (a.max b).key? = some (Max.max x y) := by
  have hnumber : b ≠ .nan := by
    rintro rfl
    cases hb
  simp only [max, lt_iff hb ha, hnumber, or_false]
  split
  · rw [ha, max_eq_left (by omega)]
  · rw [hb, max_eq_right (by omega)]

theorem nan_max (b : Binary64) : nan.max b = b := by
  have hbelow : ¬ b < nan := by
    rintro ⟨_, -, _, hkey, -⟩
    cases hkey
  cases b <;> simp [max, hbelow]

theorem exists_clamp (hd : d.key? = some x) (hlow : low.key? = some l) (hhigh : high.key? = some h)
    (hle : l ≤ h) :
    ∃ clamped, d.clamp low high = .ok clamped ∧ clamped.key? = some (min (Max.max x l) h) := by
  rw [clamp, if_pos ((le_iff hlow hhigh).mpr hle)]
  have hraised : (if d < low then low else d).key? = some (Max.max x l) := by
    simp only [lt_iff hd hlow]
    split
    · rw [hlow, max_eq_right (by omega)]
    · rw [hd, max_eq_left (by omega)]
  refine ⟨_, rfl, ?_⟩
  simp only [lt_iff hhigh hraised]
  split
  · rw [hhigh, min_eq_right (by omega)]
  · rw [hraised, min_eq_left (by omega)]

/-- What is clamped stays what it is, or becomes one of the ends. -/
theorem mem_of_clamp {clamped : Binary64} (hclamp : d.clamp low high = .ok clamped) :
    clamped ∈ [d, low, high] := by
  unfold clamp at hclamp
  split at hclamp
  · cases hclamp
    grind
  · cases hclamp

/-- Clamping returns for ends that are in order, and for no others. -/
theorem clamp_isOk_iff : (d.clamp low high).isOk = true ↔ low ≤ high := by
  unfold clamp
  split <;> simp_all [Except.isOk, Except.toBool]

end Binary64

end NodeCanvas
