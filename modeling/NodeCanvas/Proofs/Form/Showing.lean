import NodeCanvas.Form.View
import NodeCanvas.Proofs.Equality
import NodeCanvas.Proofs.Form.Storing

namespace NodeCanvas

namespace Component

/-- Where a slider shows a number: at the number itself between its ends. What is not finite stands
for the lower end, and for zero where that is not finite either. -/
def place (c : Component) (entered : Binary64) : Except Halt Binary64 :=
  (entered.finiteOr (c.sliderMin.finiteOr .zero)).clamp c.sliderMin c.sliderMax

/-- After an edit that is not a value as it is, a component which looked one way looks another:
it shows what was entered. A component whose two states have one value shows the first of them. -/
def Shows (c : Component) (was : Widget) (edit : Edit) (now : Widget) : Prop :=
  match edit, now with
  | .text typed, .textInput shown | .text typed, .textarea shown _
  | .text typed, .select shown _ | .text typed, .radio shown _
  | .text typed, .colorPicker shown | .text typed, .datePicker shown => shown = typed
  | .text typed, .numberInput (some shown) _ _ _ => shown == .finite (typedNumber typed)
  | .text typed, .slider shown _ _ _ =>
    ∃ d, c.place (.finite (typedNumber typed)) = .ok d ∧ shown == d
  | .number entered, .numberInput (some shown) _ _ _ => shown == entered.finiteOr .zero
  | .number entered, .slider shown _ _ _ => ∃ d, c.place entered = .ok d ∧ shown == d
  | .checked state, .checkbox shown => shown = (state || c.uncheckedJson == c.checkedJson)
  | .checked state, .toggle shown => shown = (state || c.offJson == c.onJson)
  | .toggle, .toggle shown =>
    ∃ before, was = .toggle before ∧ shown = (!before || c.offJson == c.onJson)
  | .selections entered, .multiSelect shown _ _ =>
    shown = c.maxSelections.elim entered entered.take
  | .files entered, .fileUpload shown _ _ =>
    shown = if c.multiple then entered else entered.take 1
  | _, _ => False

/-- The component can be drawn: the lower limit of a slider is a number. -/
def Drawable (c : Component) : Prop := c.kind = .slider → c.minValue ≠ some .nan

end Component

namespace Json

@[simp] theorem shownText_str (text : String) : shownText (some (.str text)) = text := rfl

@[simp] theorem textList_texts (texts : List String) :
    textList (some (.arr (texts.map .str))) = texts := by
  induction texts with
  | nil => rfl
  | cons text rest ih =>
      rw [List.map_cons, textList, List.filterMap_cons]
      exact congrArg (text :: ·) ih

end Json

namespace Component

variable {c : Component} {entered held : Binary64}

/-- What a slider stores puts it where it shows what was entered, although an infinite end is
stored as zero. -/
theorem exists_place (h : c.minValue ≠ some .nan) (hheld : c.onSlider entered = .ok held) :
    ∃ stored now d, (Json.ofTyped held).number? = some stored ∧
      (Binary64.finite stored).clamp c.sliderMin c.sliderMax = .ok now ∧
      c.place entered = .ok d ∧ (now == d) = true := by
  obtain ⟨low, high, hlow, hhigh, hle⟩ := exists_ends h
  obtain ⟨stored, hstored, hkey⟩ := Json.exists_number_ofTyped held
  have hstoredkey : (Binary64.finite stored).key? = some stored.key := rfl
  obtain ⟨now, hnow, hnowkey⟩ := Binary64.exists_clamp hstoredkey hlow hhigh hle
  have hplace : ∃ d, c.place entered = .ok d ∧ d.key? = some (min (max stored.key low) high) := by
    cases entered with
    | finite d =>
        have hdkey : (Binary64.finite d).key? = some d.key := rfl
        obtain ⟨clamped, hclamped, hclampedkey⟩ := Binary64.exists_clamp hdkey hlow hhigh hle
        obtain rfl : clamped = held := Except.ok.inj (hclamped.symm.trans hheld)
        refine ⟨clamped, hclamped, ?_⟩
        rw [hclampedkey, Option.some.injEq]
        -- A number is held at an infinite end only where both ends are that one.
        cases hfinite : clamped.isFinite with
        | true =>
            rw [Binary64.finiteOr, if_pos hfinite, hclampedkey, Option.some.injEq] at hkey
            omega
        | false =>
            have hzero : stored.key = 0 := by
              simpa [Binary64.finiteOr, hfinite, Binary64.zero, Binary64.key?, Double.zero,
                Double.key] using hkey
            have hbounds := d.key_bounds
            have hend := Binary64.key_eq_of_not_isFinite hclampedkey hfinite
            omega
    | infinite _ | nan =>
        obtain rfl : c.sliderMin = held := Except.ok.inj hheld
        exact Binary64.exists_clamp hkey.symm hlow hhigh hle
  obtain ⟨d, hd, hdkey⟩ := hplace
  exact ⟨stored, now, d, hstored, hnow, hd, Binary64.beq_iff_key.mpr ⟨_, hnowkey, hdkey⟩⟩

end Component

namespace Form

variable {f after : Form} {cache : ChoiceCache} {c : Component}

/-- All components in view can be drawn. -/
def Drawable (f : Form) : Prop :=
  ∀ g ∈ f.groups, f.isCollapsed g.name = false →
    ∀ c ∈ g.components, c.visible = true → c.Drawable

theorem widget_isOk_iff : (f.widget cache c).isOk = true ↔ c.Drawable := by
  unfold widget
  split
  case h_9 hkind =>
    rw [isOk_bind_pure, Binary64.clamp_isOk_iff, Component.sliderMin_le_sliderMax_iff]
    exact ⟨fun h _ => h, fun h => h hkind⟩
  all_goals
    rename_i hkind
    refine iff_of_true rfl fun hslider => ?_
    rw [hkind] at hslider
    cases hslider

theorem showGroup_isOk_iff {g : Group} :
    (f.showGroup cache g).isOk = true ↔
      (f.isCollapsed g.name = false → ∀ c ∈ g.components, c.visible = true → c.Drawable) := by
  rw [showGroup, isOk_bind_pure, showFields]
  cases hcollapsed : f.isCollapsed g.name with
  | true => simp [Except.isOk, Except.toBool]
  | false =>
      simp only [Bool.false_eq_true, if_false, isOk_mapM_iff, List.mem_filter, and_imp,
        forall_const, showField, isOk_bind_pure, widget_isOk_iff]

/-- A form is shown just if all that is in view can be drawn. -/
theorem render_isOk_iff (f : Form) (cache : ChoiceCache) :
    (f.render cache).isOk = true ↔ f.Drawable := by
  rw [render, isOk_mapM_iff]
  exact forall₂_congr fun g _ => showGroup_isOk_iff

theorem exists_widget_slider (hkind : c.kind = .slider) (hnumber : c.minValue ≠ some .nan)
    {entered held : Binary64} (hheld : c.onSlider entered = .ok held)
    (hvalue : after.value? c.name = some (.ofTyped held)) :
    ∃ now d, after.widget cache c = .ok (.slider now c.sliderMin c.sliderMax
        (c.increment.getD (.ofInt 1))) ∧ c.place entered = .ok d ∧ (now == d) = true := by
  obtain ⟨stored, now, d, hstored, hnow, hd, hsame⟩ := Component.exists_place hnumber hheld
  refine ⟨now, d, ?_, hd, hsame⟩
  simp only [widget, hkind, hvalue, Option.bind_some, hstored, Option.map_some, Option.getD_some]
  exact bind_eq_ok_iff.mpr ⟨now, hnow, rfl⟩

/-- What a component stores for an edit makes it show that edit. -/
theorem shows_of_stored {edit : Edit} (hraw : ∀ value, edit ≠ .raw value) {value : Json}
    (h : c.stored (f.value? c.name) edit = .ok (some value))
    (hvalue : after.value? c.name = some value) {was now : Widget}
    (hwas : f.widget cache c = .ok was) (hnow : after.widget cache c = .ok now) :
    c.Shows was edit now := by
  have hdrawn : c.Drawable := widget_isOk_iff.mp (by rw [hwas]; rfl)
  cases Component.stored_eq_ok_some_iff.mp h with
  | raw => exact absurd rfl (hraw value)
  | text typed hkind =>
      simp only [List.mem_cons, List.not_mem_nil, or_false] at hkind
      rcases hkind with hkind | hkind | hkind | hkind | hkind | hkind <;>
        simp only [widget, hkind, hvalue, Json.shownText_str] at hnow <;> cases hnow <;> rfl
  | typed typed hkind =>
      obtain ⟨shown, hshown, hkey⟩ := Json.exists_number_ofTyped (.finite (typedNumber typed))
      simp only [widget, hkind, hvalue, Option.bind_some, hshown] at hnow
      cases hnow
      exact Binary64.beq_iff_key.mpr ⟨shown.key, rfl, hkey.symm⟩
  | number entered hkind =>
      obtain ⟨shown, hshown, hkey⟩ := Json.exists_number_ofTyped (entered.finiteOr .zero)
      simp only [widget, hkind, hvalue, Option.bind_some, hshown] at hnow
      cases hnow
      have hfinite : (entered.finiteOr .zero).finiteOr .zero = entered.finiteOr .zero := by
        cases entered <;> rfl
      rw [hfinite] at hkey
      exact Binary64.beq_iff_key.mpr ⟨shown.key, rfl, hkey.symm⟩
  | typedOnSlider typed held hkind hheld =>
      obtain ⟨shown, d, hwidget, hd, hsame⟩ :=
        exists_widget_slider hkind (hdrawn hkind) hheld hvalue
      obtain rfl := Except.ok.inj (hwidget.symm.trans hnow)
      exact ⟨d, hd, hsame⟩
  | onSlider entered held hkind hheld =>
      obtain ⟨shown, d, hwidget, hd, hsame⟩ :=
        exists_widget_slider hkind (hdrawn hkind) hheld hvalue
      obtain rfl := Except.ok.inj (hwidget.symm.trans hnow)
      exact ⟨d, hd, hsame⟩
  | checkbox state hkind | toggle state hkind =>
      simp only [widget, hkind, hvalue] at hnow
      cases hnow
      cases state <;> simp [Component.Shows]
  | flipped hkind =>
      simp only [widget, hkind, hvalue] at hwas hnow
      cases hwas
      cases hnow
      by_cases hon : f.value? c.name == some c.onJson <;> simp [Component.Shows, hon]
  | selections entered hkind | files entered hkind =>
      simp only [widget, hkind, hvalue, Json.textList_texts] at hnow
      cases hnow
      rfl

/-- What was edited is what is shown: a field whose component is visible in an open group shows
what was entered into it, and no other field has another value. -/
theorem edit_shown {name : String} (hc : f.component? name = some c) {g : Group}
    (hg : g ∈ f.groups) (hmem : c ∈ g.components) (hvisible : c.visible = true)
    (hopen : f.isCollapsed g.name = false) (hdrawn : f.Drawable) {edit : Edit}
    (hraw : ∀ value, edit ≠ .raw value) (h : f.edit name edit = .ok (some after))
    (cache : ChoiceCache) :
    ∃ was groups shown field, f.widget cache c = .ok was ∧ after.render cache = .ok groups ∧
      shown ∈ groups ∧ after.showGroup cache g = .ok shown ∧
      field ∈ shown.fields ∧ after.showField cache c = .ok field ∧
      c.Shows was edit field.widget ∧
      ∀ other, other ≠ name → after.values.get? other = f.values.get? other := by
  obtain ⟨found, value, hfound, hstored, rfl⟩ := edit_eq_some h
  obtain rfl : found = c := Option.some.inj (hfound.symm.trans hc)
  obtain ⟨rfl, -⟩ : found.name = name ∧ found.kind.isDisplayOnly = false := by
    simpa using List.find?_some hc
  obtain ⟨was, hwas⟩ := exists_of_isOk (widget_isOk_iff.mpr (hdrawn g hg hopen found hmem hvisible))
  have hstays : (f.setValue found.name value).Drawable := hdrawn
  obtain ⟨groups, hgroups⟩ := exists_of_isOk ((render_isOk_iff _ cache).mpr hstays)
  obtain ⟨shown, hshown, hgroup⟩ := exists_mem_of_mapM hgroups g hg
  obtain ⟨fields, hfields, hmade⟩ := bind_eq_ok_iff.mp hgroup
  cases hmade
  have hopen : (f.setValue found.name value).isCollapsed g.name = false := hopen
  rw [showFields, hopen] at hfields
  obtain ⟨field, hfield, hstep⟩ :=
    exists_mem_of_mapM hfields found (List.mem_filter.mpr ⟨hmem, hvisible⟩)
  obtain ⟨now, hnow, hmade⟩ := bind_eq_ok_iff.mp hstep
  cases hmade
  refine ⟨was, groups, _, _, hwas, hgroups, hshown, hgroup, hfield, hstep, ?_, ?_⟩
  · exact shows_of_stored hraw hstored (value?_setValue_self f found.name value) hwas hnow
  · exact fun other hother => get?_setValue_of_ne f value hother

section Lamp

def lamp : Component := { Component.plain "toggle" "lamp" with onValue := some (.bool false) }

def level : Component :=
  { Component.plain "slider" "level" with
    minValue := some (.ofInt (-5))
    maxValue := some (.ofInt 5) }

/-- There is no limit below. -/
def depth : Component :=
  { Component.plain "slider" "depth" with minValue := some (.infinite true) }

def lampGroup : Group := { name := "g", components := [lamp, level, depth] }

def lampForm : Form :=
  ofNode "n" { key := "lamp_node", name := "Lamp", layout := some { groups := [lampGroup] } }
    (.ofList [("lamp", .bool false)])

theorem level_shown_at_bound :
    lampForm.component? "level" = some level ∧ lampGroup ∈ lampForm.groups ∧
    level ∈ lampGroup.components ∧ level.visible = true ∧
    lampForm.isCollapsed lampGroup.name = false ∧ lampForm.Drawable ∧
    let edit := Edit.number (.ofInt 9)
    let after := lampForm.setValue "level" (.num (.whole 5))
    (∀ value, edit ≠ .raw value) ∧ lampForm.edit "level" edit = .ok (some after) ∧
    ∃ was groups shown field, lampForm.widget {} level = .ok was ∧
      after.render {} = .ok groups ∧ shown ∈ groups ∧ field ∈ shown.fields ∧
      after.showField {} level = .ok field ∧ level.Shows was edit field.widget ∧
      after.values.get? "lamp" = lampForm.values.get? "lamp" := by
  have hc : lampForm.component? "level" = some level := by decide +kernel
  have hg : lampGroup ∈ lampForm.groups := List.mem_cons_self ..
  have hmem : level ∈ lampGroup.components := List.mem_cons_of_mem _ (List.mem_cons_self ..)
  have hopen : lampForm.isCollapsed lampGroup.name = false := by decide +kernel
  have hdrawn : lampForm.Drawable := (render_isOk_iff _ {}).mp (by decide +kernel)
  have hedit : lampForm.edit "level" (.number (.ofInt 9)) =
      .ok (some (lampForm.setValue "level" (.num (.whole 5)))) := by
    decide +kernel
  have hraw : ∀ value, Edit.number (.ofInt 9) ≠ .raw value := fun _ => nofun
  obtain ⟨was, groups, shown, field, hwas, hgroups, hshown, -, hfield, hmade, hshows, hothers⟩ :=
    edit_shown hc hg hmem rfl hopen hdrawn hraw hedit {}
  exact ⟨hc, hg, hmem, rfl, hopen, hdrawn, hraw, hedit, was, groups, shown, field, hwas, hgroups,
    hshown, hfield, hmade, hshows, hothers "lamp" (by decide)⟩

/-- A stronger promise, which is not kept: whatever its values, a toggle that is flipped shows its
other state, and a slider shows its lower end for an infinite number, be it typed or not. -/
def ShowsStrictly (c : Component) (was : Widget) (edit : Edit) (now : Widget) : Prop :=
  match edit, now with
  | .toggle, .toggle shown => was = .toggle (!shown)
  | .text "inf", .slider shown _ _ _ | .number (.infinite _), .slider shown _ _ _ =>
    shown == c.sliderMin
  | _, _ => c.Shows was edit now

/-- The edit is taken and shown, but not as strictly as promised. -/
def Belies (f : Form) (name : String) (edit : Edit) : Prop :=
  ∃ c after was now, f.component? name = some c ∧ f.edit name edit = .ok (some after) ∧
    f.widget {} c = .ok was ∧ after.widget {} c = .ok now ∧ ¬ ShowsStrictly c was edit now

/-- Beside the lamp there is a slider that starts at no number. -/
def unlitForm : Form :=
  let broken := { Component.plain "slider" "broken" with minValue := some .nan }
  ofNode "n" { key := "lamp_node", name := "Lamp", layout := some {
    groups := [{ name := "g", components := [lamp, broken] }] } } .empty

/-- The lamp stays on, the level and the depth show zero, and beside a slider that starts at no
number nothing is shown. -/
theorem lamp_stays_on :
    lampGroup ∈ lampForm.groups ∧ lampForm.isCollapsed lampGroup.name = false ∧
    (∀ c ∈ lampGroup.components, c.visible = true) ∧
    lampForm.Belies "lamp" .toggle ∧ lampForm.Belies "level" (.text "inf") ∧
    lampForm.Belies "depth" (.number (.infinite false)) ∧
    ∃ after, unlitForm.edit "lamp" .toggle = .ok (some after) ∧
      after.render {} = .error .noRange := by
  refine ⟨List.mem_cons_self .., by decide +kernel, by decide +kernel, ?_, ?_, ?_, ?_⟩
  · refine ⟨lamp, lampForm.setValue "lamp" (.bool false), .toggle true, .toggle true,
      by decide +kernel, by decide +kernel, by decide +kernel, by decide +kernel, ?_⟩
    exact nofun
  · refine ⟨level, lampForm.setValue "level" (.num (.whole 0)),
      .slider (.ofInt (-5)) (.ofInt (-5)) (.ofInt 5) (.ofInt 1),
      .slider .zero (.ofInt (-5)) (.ofInt 5) (.ofInt 1),
      by decide +kernel, by decide +kernel, by decide +kernel, by decide +kernel, ?_⟩
    show ¬ (Binary64.zero == level.sliderMin) = true
    decide +kernel
  · refine ⟨depth, lampForm.setValue "depth" (.num (.whole 0)),
      .slider (.infinite true) (.infinite true) (.ofInt 100) (.ofInt 1),
      .slider .zero (.infinite true) (.ofInt 100) (.ofInt 1),
      by decide +kernel, by decide +kernel, by decide +kernel, by decide +kernel, ?_⟩
    show ¬ (Binary64.zero == depth.sliderMin) = true
    decide +kernel
  · exact ⟨unlitForm.setValue "lamp" (.bool false), by decide +kernel, by decide +kernel⟩

end Lamp

end Form

end NodeCanvas
