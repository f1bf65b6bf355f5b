import NodeCanvas.Proofs.Form.Reconcile
import NodeCanvas.Proofs.Number.Clamping

namespace NodeCanvas

/-- The edits that enter a number, be it typed or not. -/
def Edit.EntersNumber : Edit → Prop
  | .number _ | .text _ => True
  | _ => False

/-- The edits that enter a finite number; what is typed is read as one. -/
def Edit.EntersFinite : Edit → Prop
  | .number entered => entered.isFinite = true
  | .text _ => True
  | _ => False

namespace Component

variable {c : Component} {current : Option Json} {value : Json}

/-- What a component takes, and the value that it stores for it. -/
inductive Stores (c : Component) (current : Option Json) : Edit → Json → Prop
  | raw (value : Json) (h : c.kind.isDisplayOnly = false) : Stores c current (.raw value) value
  | text (typed : String)
      (h : c.kind ∈ [.textInput, .textarea, .select, .radio, .colorPicker, .datePicker]) :
      Stores c current (.text typed) (.str typed)
  | typed (typed : String) (h : c.kind = .numberInput) :
      Stores c current (.text typed) (.ofTyped (.finite (typedNumber typed)))
  | typedOnSlider (typed : String) (held : Binary64) (h : c.kind = .slider)
      (hheld : c.onSlider (.finite (typedNumber typed)) = .ok held) :
      Stores c current (.text typed) (.ofTyped held)
  | number (entered : Binary64) (h : c.kind = .numberInput) :
      Stores c current (.number entered) (.ofTyped (entered.finiteOr .zero))
  | onSlider (entered held : Binary64) (h : c.kind = .slider)
      (hheld : c.onSlider entered = .ok held) :
      Stores c current (.number entered) (.ofTyped held)
  | checkbox (state : Bool) (h : c.kind = .checkbox) :
      Stores c current (.checked state) (if state then c.checkedJson else c.uncheckedJson)
  | toggle (state : Bool) (h : c.kind = .toggle) :
      Stores c current (.checked state) (if state then c.onJson else c.offJson)
  | flipped (h : c.kind = .toggle) :
      Stores c current .toggle (if current == some c.onJson then c.offJson else c.onJson)
  | selections (entered : List String) (h : c.kind = .multiSelect) :
      Stores c current (.selections entered)
        (.arr ((c.maxSelections.elim entered entered.take).map .str))
  | files (entered : List String) (h : c.kind = .fileUpload) :
      Stores c current (.files entered)
        (.arr ((if c.multiple then entered else entered.take 1).map .str))

theorem stored_eq_ok_some_iff {edit : Edit} :
    c.stored current edit = .ok (some value) ↔ c.Stores current edit value := by
  constructor
  · intro h
    unfold stored at h
    split at h
    · cases h
    · rename_i hkind
      rw [Bool.not_eq_true] at hkind
      split at h
      case h_9 =>
        obtain ⟨held, hheld, h⟩ := bind_eq_ok_iff.mp h
        cases h
        exact .typedOnSlider _ held ‹_› hheld
      case h_11 =>
        obtain ⟨held, hheld, h⟩ := bind_eq_ok_iff.mp h
        cases h
        exact .onSlider _ held ‹_› hheld
      all_goals cases h
      · exact .raw value hkind
      iterate 6 · exact .text _ (by simp [*])
      · exact .typed _ ‹_›
      · exact .number _ ‹_›
      · exact .checkbox _ ‹_›
      · exact .toggle _ ‹_›
      · exact .flipped ‹_›
      · exact .selections _ ‹_›
      · exact .files _ ‹_›
  · intro h
    cases h with
    | raw _ hkind => simp [stored, hkind]
    | text typed hkind =>
        simp only [List.mem_cons, List.not_mem_nil, or_false] at hkind
        rcases hkind with hkind | hkind | hkind | hkind | hkind | hkind <;>
          simp [stored, hkind, Kind.isDisplayOnly]
    | typedOnSlider _ held hkind hheld | onSlider _ held hkind hheld =>
        simp only [stored, hkind, Kind.isDisplayOnly, Bool.false_eq_true, if_false]
        exact bind_eq_ok_iff.mpr ⟨held, hheld, rfl⟩
    | typed _ hkind | number _ hkind | checkbox _ hkind | toggle _ hkind | flipped hkind
    | selections _ hkind | files _ hkind => simp [stored, hkind, Kind.isDisplayOnly]

section Ends

theorem sliderMin_ne_nan (h : c.minValue ≠ some .nan) : c.sliderMin ≠ .nan := by
  intro hmin
  cases hdeclared : c.minValue with
  | none => simp [sliderMin, hdeclared, Binary64.zero] at hmin
  | some least =>
      rw [sliderMin, hdeclared, Option.getD_some] at hmin
      exact h (hdeclared.trans (congrArg some hmin))

theorem exists_ends (h : c.minValue ≠ some .nan) :
    ∃ low high, c.sliderMin.key? = some low ∧ c.sliderMax.key? = some high ∧ low ≤ high := by
  obtain ⟨low, hlow⟩ := Binary64.exists_key (sliderMin_ne_nan h)
  by_cases hnone : c.maxValue.getD (.ofInt 100) = .nan
  · refine ⟨low, low, hlow, ?_, le_rfl⟩
    rw [sliderMax, hnone, Binary64.nan_max, hlow]
  · obtain ⟨high, hhigh⟩ := Binary64.exists_key hnone
    exact ⟨low, max high low, hlow, Binary64.key?_max hhigh hlow, le_max_right ..⟩

theorem sliderMin_le_sliderMax_iff : c.sliderMin ≤ c.sliderMax ↔ c.minValue ≠ some .nan := by
  constructor
  · rintro ⟨low, hlow, -⟩ hnan
    rw [sliderMin, hnan] at hlow
    cases hlow
  · intro h
    obtain ⟨low, high, hlow, hhigh, hle⟩ := exists_ends h
    exact (Binary64.le_iff hlow hhigh).mpr hle

variable {low high : Int}

/-- A slider whose ends are in order holds a number between them, whatever is entered. -/
theorem exists_onSlider (hlow : c.sliderMin.key? = some low) (hhigh : c.sliderMax.key? = some high)
    (hle : low ≤ high) (entered : Binary64) :
    ∃ held place, c.onSlider entered = .ok held ∧ held.key? = some place ∧
      low ≤ place ∧ place ≤ high := by
  cases entered with
  | finite d =>
      have hkey : (Binary64.finite d).key? = some d.key := rfl
      obtain ⟨held, hheld, hplace⟩ := Binary64.exists_clamp hkey hlow hhigh hle
      exact ⟨held, _, hheld, hplace, le_min (le_max_right ..) hle, min_le_right ..⟩
  | infinite _ | nan => exact ⟨c.sliderMin, low, rfl, hlow, le_rfl, hle⟩

theorem onSlider_isOk_iff {entered : Binary64} :
    (c.onSlider entered).isOk = true ↔ ¬ (c.minValue = some .nan ∧ entered.isFinite = true) := by
  cases entered with
  | finite d =>
      show (Binary64.clamp _ _ _).isOk = true ↔ _
      rw [Binary64.clamp_isOk_iff, sliderMin_le_sliderMax_iff]
      simp [Binary64.isFinite]
  | infinite _ | nan => simp [onSlider, Binary64.isFinite, Except.isOk, Except.toBool]

end Ends

/-- An edit of a component stops just if a finite number is entered on a slider whose declared
lower limit is no number. -/
theorem stored_isOk_iff {edit : Edit} :
    (c.stored current edit).isOk = true ↔
      ¬ (c.kind = .slider ∧ c.minValue = some .nan ∧ edit.EntersFinite) := by
  by_cases hkind : c.kind = .slider
  · cases edit with
    | text typed =>
        simp only [stored, hkind, Kind.isDisplayOnly, Bool.false_eq_true, if_false]
        rw [isOk_bind_pure, onSlider_isOk_iff]
        simp [Edit.EntersFinite, Binary64.isFinite]
    | number entered =>
        simp only [stored, hkind, Kind.isDisplayOnly, Bool.false_eq_true, if_false]
        rw [isOk_bind_pure, onSlider_isOk_iff]
        simp [Edit.EntersFinite]
    | _ =>
        simp [stored, hkind, Kind.isDisplayOnly, Edit.EntersFinite, Except.isOk, Except.toBool]
  · refine iff_of_true ?_ fun h => hkind h.1
    unfold stored
    split
    · rfl
    · split
      case h_9 | h_11 => exact absurd ‹_› hkind
      all_goals rfl

end Component

namespace Form

/-- An edit of a form returns, be it taken or not, unless its component stops in the middle. -/
theorem edit_isOk_iff {f : Form} {name : String} {edit : Edit} :
    (f.edit name edit).isOk = true ↔ ¬ ∃ c, f.component? name = some c ∧
      c.kind = .slider ∧ c.minValue = some .nan ∧ edit.EntersFinite := by
  unfold Form.edit
  cases hc : f.component? name with
  | none => simp [Except.isOk, Except.toBool]
  | some c =>
      have hstored := @Component.stored_isOk_iff c (f.value? name) edit
      simp only [Option.some.injEq, exists_eq_left', ← hstored]
      cases c.stored (f.value? name) edit <;> rfl

theorem value?_setValue_self (f : Form) (name : String) (value : Json) :
    (f.setValue name value).value? name = some value :=
  value?_of_get? _ (get?_setValue_self f name value)

end Form

end NodeCanvas
