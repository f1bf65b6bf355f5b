import NodeCanvas.Form.Check
import NodeCanvas.Proofs.Form.Storing

/-!
What a slider stores beside what it is checked for. A slider keeps a number between its two ends,
of which each is a standard one unless it is declared, and is checked for the declared limits only.
The two agree as long as the lower end is not above a declared upper limit, which a slider that
declares no lower limit can miss.
-/
namespace NodeCanvas

namespace Component

variable {c : Component}

structure LimitsFinite (c : Component) : Prop where
  least : ∀ least, c.minValue = some least → least.isFinite = true
  most : ∀ most, c.maxValue = some most → most.isFinite = true

/-- Where both limits are declared, the upper one is not below the lower one. -/
def LimitsInOrder (c : Component) : Prop :=
  ∀ least most, c.minValue = some least → c.maxValue = some most → ¬ most < least

/-- Only an upper limit is declared, and it is below zero, where the slider starts. -/
def StartsAboveLimit (c : Component) : Prop :=
  c.minValue = none ∧ ∃ most, c.maxValue = some most ∧ most < .zero

theorem numberFaults_eq_nil_iff {d : Double} :
    c.numberFaults d = [] ↔
      (∀ least, c.minValue = some least → ¬ .finite d < least) ∧
        ∀ most, c.maxValue = some most → ¬ most < .finite d := by
  simp [numberFaults, Option.filter_eq_none_iff]

theorem faults_of_number? {value : Json} {d : Double} (h : value.number? = some d) :
    c.faults (some value) = c.numberFaults d := by
  cases value with
  | num n =>
      obtain rfl := Option.some.inj h
      rfl
  | null | bool _ | str _ | arr _ | obj _ => cases h

theorem LimitsFinite.minValue_ne_nan (h : c.LimitsFinite) : c.minValue ≠ some .nan := by
  intro hnan
  cases h.least _ hnan

theorem LimitsFinite.isFinite_onSlider (h : c.LimitsFinite) {entered held : Binary64}
    (hheld : c.onSlider entered = .ok held) : held.isFinite = true := by
  have hmin : c.sliderMin.isFinite = true := by
    unfold sliderMin
    cases hleast : c.minValue with
    | none => rfl
    | some least => exact h.least least hleast
  have hdeclared : (c.maxValue.getD (.ofInt 100)).isFinite = true := by
    cases hmost : c.maxValue with
    | none => rfl
    | some most => exact h.most most hmost
  have hmax : c.sliderMax.isFinite = true := by
    unfold sliderMax Binary64.max
    split
    · exact hdeclared
    · exact hmin
  unfold onSlider at hheld
  split at hheld
  · rename_i hfinite
    have hmem := Binary64.mem_of_clamp hheld
    simp only [List.mem_cons, List.not_mem_nil, or_false] at hmem
    rcases hmem with rfl | rfl | rfl
    · exact hfinite
    · exact hmin
    · exact hmax
  · cases hheld
    exact hmin

/-- A number on the slider breaks no declared limit just if its lower end does not. -/
theorem numberFaults_onSlider_eq_nil_iff (hnumber : c.minValue ≠ some .nan) {d : Double}
    {entered held : Binary64} (hheld : c.onSlider entered = .ok held)
    (hkey : held.key? = some d.key) :
    c.numberFaults d = [] ↔ ∀ most, c.maxValue = some most → ¬ most < c.sliderMin := by
  obtain ⟨low, high, hlow, hhigh, hle⟩ := exists_ends hnumber
  have hbetween : low ≤ d.key ∧ d.key ≤ high := by
    obtain ⟨found, place, hfound, hplace, hbetween⟩ := exists_onSlider hlow hhigh hle entered
    obtain rfl : found = held := Except.ok.inj (hfound.symm.trans hheld)
    rwa [Option.some.inj (hkey.symm.trans hplace)]
  have hdkey : (Binary64.finite d).key? = some d.key := rfl
  rw [numberFaults_eq_nil_iff]
  constructor
  · rintro ⟨-, habove⟩ most hmost ⟨m, hm, l, hl, hbelow⟩
    obtain rfl : low = l := Option.some.inj (hlow.symm.trans hl)
    exact habove most hmost ((Binary64.lt_iff hm hdkey).mpr (lt_of_lt_of_le hbelow hbetween.1))
  · intro hend
    refine ⟨?_, ?_⟩
    · intro least hleast hbelow
      have hmin : c.sliderMin = least := by
        rw [sliderMin, hleast, Option.getD_some]
      rw [hmin] at hlow
      exact absurd ((Binary64.lt_iff hdkey hlow).mp hbelow) (not_lt.mpr hbetween.1)
    · rintro most hmost ⟨m, hm, k, hk, habove⟩
      obtain rfl : d.key = k := Option.some.inj (hdkey.symm.trans hk)
      have hend : low ≤ m := not_lt.mp fun hbelow =>
        hend most hmost ((Binary64.lt_iff hm hlow).mpr hbelow)
      have hmax : c.sliderMax.key? = some m := by
        rw [sliderMax, hmost, Option.getD_some, Binary64.key?_max hm hlow, max_eq_left hend]
      obtain rfl : high = m := Option.some.inj (hhigh.symm.trans hmax)
      exact absurd habove (not_lt.mpr hbetween.2)

theorem not_startsAboveLimit_iff (h : c.LimitsInOrder) :
    ¬ c.StartsAboveLimit ↔ ∀ most, c.maxValue = some most → ¬ most < c.sliderMin := by
  cases hmin : c.minValue with
  | none => simp [StartsAboveLimit, sliderMin, hmin]
  | some least =>
      simp only [StartsAboveLimit, sliderMin, hmin, Option.getD_some]
      constructor
      · intro _ most hmost
        exact h least most hmin hmost
      · rintro - ⟨hnone, -⟩
        cases hnone

/-- A slider takes every number, and stores one between its ends. -/
theorem stored_slider (hkind : c.kind = .slider) (hnumber : c.minValue ≠ some .nan)
    (current : Option Json) {edit : Edit} (hedit : edit.EntersNumber) :
    ∃ entered held, c.onSlider entered = .ok held ∧
      c.stored current edit = .ok (some (.ofTyped held)) := by
  obtain ⟨low, high, hlow, hhigh, hle⟩ := exists_ends hnumber
  cases edit with
  | number entered =>
      obtain ⟨held, -, hheld, -⟩ := exists_onSlider hlow hhigh hle entered
      exact ⟨entered, held, hheld, stored_eq_ok_some_iff.mpr (.onSlider entered held hkind hheld)⟩
  | text typed =>
      obtain ⟨held, -, hheld, -⟩ := exists_onSlider hlow hhigh hle (.finite (typedNumber typed))
      exact ⟨_, held, hheld, stored_eq_ok_some_iff.mpr (.typedOnSlider typed held hkind hheld)⟩
  | checked _ | toggle | selections _ | files _ | raw _ => cases hedit

end Component

namespace Form

variable {f : Form} {c : Component}

/-- The field is that of one component. -/
def Sole (f : Form) (c : Component) : Prop :=
  c ∈ f.components ∧ ∀ other ∈ f.components, other.name = c.name → other = c

def Clean (f : Form) (name : String) : Prop := ∀ v ∈ f.validate, v.field ≠ name

theorem Sole.component?_eq (h : f.Sole c) (hholds : c.kind.isDisplayOnly = false) :
    f.component? c.name = some c := by
  cases hfound : f.component? c.name with
  | none => simpa [hholds] using List.find?_eq_none.mp hfound c h.1
  | some other =>
      have hname : other.name = c.name ∧ other.kind.isDisplayOnly = false := by
        simpa using List.find?_some hfound
      rw [h.2 other (List.mem_of_find?_eq_some hfound) hname.1]

theorem Sole.clean_iff (h : f.Sole c) (hvisible : c.visible = true)
    (hholds : c.kind.isDisplayOnly = false) :
    f.Clean c.name ↔ c.faults (f.value? c.name) = [] := by
  constructor
  · intro hclean
    rw [List.eq_nil_iff_forall_not_mem]
    intro message hmessage
    refine hclean ⟨c.name, message⟩ ?_ rfl
    refine List.mem_flatMap.mpr ⟨c, List.mem_filter.mpr ⟨h.1, by simp [hvisible, hholds]⟩, ?_⟩
    exact List.mem_map.mpr ⟨message, hmessage, rfl⟩
  · rintro hnone v hv hfield
    obtain ⟨other, hother, hfault⟩ := List.mem_flatMap.mp hv
    obtain ⟨message, hmessage, rfl⟩ := List.mem_map.mp hfault
    obtain rfl := h.2 other (List.mem_of_mem_filter hother) hfield
    rw [hnone] at hmessage
    cases hmessage

/-- After a number is entered on a slider, its field is clean or not whatever the number was. -/
theorem Sole.clean_edited (h : f.Sole c) (hkind : c.kind = .slider) (hvisible : c.visible = true)
    (hfinite : c.LimitsFinite) {edit : Edit} (hedit : edit.EntersNumber) :
    ∃ after, f.edit c.name edit = .ok (some after) ∧
      (after.Clean c.name ↔ ∀ most, c.maxValue = some most → ¬ most < c.sliderMin) := by
  have hholds : c.kind.isDisplayOnly = false := by rw [hkind]; rfl
  obtain ⟨entered, held, hheld, hstored⟩ :=
    c.stored_slider hkind hfinite.minValue_ne_nan (f.value? c.name) hedit
  obtain ⟨shown, hshown, hkey⟩ := Json.exists_number_ofTyped held
  rw [Binary64.finiteOr, if_pos (hfinite.isFinite_onSlider hheld)] at hkey
  refine ⟨f.setValue c.name (.ofTyped held), ?_, ?_⟩
  · simp [Form.edit, h.component?_eq hholds, hstored, bind, Except.bind, pure, Except.pure]
  · have hsole : (f.setValue c.name (.ofTyped held)).Sole c := h
    rw [hsole.clean_iff hvisible hholds, value?_setValue_self, Component.faults_of_number? hshown,
      Component.numberFaults_onSlider_eq_nil_iff hfinite.minValue_ne_nan hheld hkey.symm]

/-- A visible slider whose limits are finite and in order takes every number, its ends being in
order for whatever it clamps. The field is clean afterwards, unless an upper limit below zero is all
that the slider declares: then no number that can be entered leaves it clean. -/
theorem slider_clean_iff (h : f.Sole c) (hkind : c.kind = .slider) (hvisible : c.visible = true)
    (hfinite : c.LimitsFinite) (horder : c.LimitsInOrder) :
    c.sliderMin ≤ c.sliderMax ∧
    ∀ edit : Edit, edit.EntersNumber → ∃ after, f.edit c.name edit = .ok (some after) ∧
      (after.Clean c.name ↔ ¬ c.StartsAboveLimit) := by
  refine ⟨Component.sliderMin_le_sliderMax_iff.mpr hfinite.minValue_ne_nan, fun edit hedit => ?_⟩
  obtain ⟨after, hafter, hclean⟩ := h.clean_edited hkind hvisible hfinite hedit
  exact ⟨after, hafter, hclean.trans (Component.not_startsAboveLimit_iff horder).symm⟩

section Climate

def heat : Component :=
  { Component.plain "slider" "heat" with maxValue := some (.ofInt 30) }

def frost : Component :=
  { Component.plain "slider" "frost" with maxValue := some (.ofInt (-5)) }

def climateForm : Form :=
  ofNode "n" { key := "climate_node", name := "Climate", layout := some {
    groups := [{ name := "g", components := [heat, frost] }] } } .empty

theorem heat_clean :
    climateForm.Sole heat ∧ heat.kind = .slider ∧ heat.visible = true ∧ heat.LimitsFinite ∧
    heat.LimitsInOrder ∧ ¬ heat.StartsAboveLimit ∧
    ∃ after, climateForm.edit "heat" (.text "1e3") = .ok (some after) ∧ after.Clean "heat" := by
  have hsole : climateForm.Sole heat := ⟨List.mem_cons_self .., by decide +kernel⟩
  have hkind : heat.kind = .slider := by decide
  have hfinite : heat.LimitsFinite := by
    refine ⟨nofun, fun most hmost => ?_⟩
    obtain rfl := Option.some.inj hmost
    rfl
  have horder : heat.LimitsInOrder := nofun
  have hstarts : ¬ heat.StartsAboveLimit := by
    rintro ⟨-, most, hmost, hbelow⟩
    obtain rfl := Option.some.inj hmost
    exact absurd hbelow (by decide +kernel)
  obtain ⟨after, hafter, hclean⟩ :=
    (slider_clean_iff hsole hkind rfl hfinite horder).2 (.text "1e3") trivial
  exact ⟨hsole, hkind, rfl, hfinite, horder, hstarts, after, hafter, hclean.mpr hstarts⟩

/-- Whatever number is entered, the frost is left at zero, which its own limit forbids. -/
theorem frost_never_clean :
    climateForm.Sole frost ∧ frost.kind = .slider ∧ frost.visible = true ∧
    frost.LimitsFinite ∧ frost.LimitsInOrder ∧
    ∀ edit : Edit, edit.EntersNumber →
      ∃ after, climateForm.edit "frost" edit = .ok (some after) ∧ ¬ after.Clean "frost" := by
  have hsole : climateForm.Sole frost :=
    ⟨List.mem_cons_of_mem _ (List.mem_cons_self ..), by decide +kernel⟩
  have hkind : frost.kind = .slider := by decide
  have hfinite : frost.LimitsFinite := by
    refine ⟨nofun, fun most hmost => ?_⟩
    obtain rfl := Option.some.inj hmost
    rfl
  refine ⟨hsole, hkind, rfl, hfinite, nofun, fun edit hedit => ?_⟩
  obtain ⟨after, hafter, hclean⟩ := hsole.clean_edited hkind rfl hfinite hedit
  refine ⟨after, hafter, fun h => ?_⟩
  exact hclean.mp h (.ofInt (-5)) rfl (by decide +kernel)

end Climate

end Form

end NodeCanvas
