import NodeCanvas.Proofs.Form.Staleness

namespace NodeCanvas.Form

/-- The list that a field selects for the component now has arrived without its value. -/
def Outdated (f : Form) (cache : ChoiceCache) (c : Component) : Prop :=
  ∃ family field key, c.DependsOn family field ∧ f.choiceKey? c = some key ∧
    leftChoices (f.value? c.name) (cache.slot? key) = true

variable {f : Form} {cache : ChoiceCache}

theorem isStale_iff_outdated {c : Component} : f.isStale cache c = true ↔ f.Outdated cache c := by
  rw [isStale_iff]
  constructor
  · rintro ⟨text, htext, family, field, selector, choices, hdepends, hselector, harrived, hnone⟩
    refine ⟨family, field, .dependent family selector, hdepends, ?_, ?_⟩
    · rw [choiceKey?_of_dependsOn hdepends, hselector]
      rfl
    · exact leftChoices_eq_true_iff.mpr
        ⟨choices, text, ChoiceCache.choices?_eq_some_iff.mp harrived, htext, hnone⟩
  · rintro ⟨family, field, key, hdepends, hkey, hleft⟩
    rw [choiceKey?_of_dependsOn hdepends] at hkey
    obtain ⟨selector, hselector, rfl⟩ := Option.map_eq_some_iff.mp hkey
    obtain ⟨choices, text, hslot, htext, hnone⟩ := leftChoices_eq_true_iff.mp hleft
    exact ⟨text, htext, family, field, selector, choices, hdepends, hselector,
      ChoiceCache.choices?_eq_some_iff.mpr hslot, hnone⟩

theorem mem_staleFields_iff_outdated {name : String} :
    name ∈ f.staleFields cache ↔ ∃ c ∈ f.components, c.name = name ∧ f.Outdated cache c := by
  rw [staleFields, List.mem_map]
  constructor
  · rintro ⟨c, hc, hname⟩
    obtain ⟨hmem, hstale⟩ := List.mem_filter.mp hc
    exact ⟨c, hmem, hname, isStale_iff_outdated.mp hstale⟩
  · rintro ⟨c, hmem, hname, hstale⟩
    exact ⟨c, List.mem_filter.mpr ⟨hmem, isStale_iff_outdated.mpr hstale⟩, hname⟩

/-- A stale field has a text, so the empty text is another value. -/
theorem value?_ne_of_stale {name : String} (h : name ∈ f.staleFields cache) :
    f.value? name ≠ some (.str "") := by
  intro hempty
  obtain ⟨text, htext, -⟩ := mem_staleFields_iff.mp h
  rw [text?_of_empty hempty] at htext
  cases htext

theorem get?_reconcile_of_stale {name : String} (h : name ∈ f.staleFields cache) :
    (f.reconcile cache).2.values.get? name = some (.str "") := by
  rw [get?_reconcile, if_pos h]

theorem mem_staleFields_iff_value? {name : String} :
    name ∈ f.staleFields cache ↔ (f.reconcile cache).2.value? name ≠ f.value? name := by
  constructor
  · intro hstale
    rw [value?_of_get? _ (get?_reconcile_of_stale hstale)]
    exact (value?_ne_of_stale hstale).symm
  · intro hchanged
    by_cases hstale : name ∈ f.staleFields cache
    · exact hstale
    · exact absurd (value?_reconcile_of_not_mem hstale) hchanged

theorem mem_staleFields_iff_get? {name : String} :
    name ∈ f.staleFields cache ↔
      (f.reconcile cache).2.values.get? name ≠ f.values.get? name := by
  constructor
  · intro hstale hsame
    rw [get?_reconcile_of_stale hstale] at hsame
    exact value?_ne_of_stale hstale (value?_of_get? f hsame.symm)
  · intro hchanged
    by_cases hstale : name ∈ f.staleFields cache
    · exact hstale
    · exact absurd (get?_reconcile_of_not_mem f cache hstale) hchanged

/-- Nothing is stale after reconciling: it would have been stale before, and so have lost its
text. -/
theorem staleFields_reconcile (f : Form) (cache : ChoiceCache) :
    (f.reconcile cache).2.staleFields cache = [] := by
  refine List.eq_nil_iff_forall_not_mem.mpr ?_
  intro name hstale
  obtain ⟨text, htext, -⟩ := mem_staleFields_iff.mp hstale
  exact (text?_of_reconcile htext).1 (mem_staleFields_of_reconcile hstale)

theorem not_outdated_reconcile {c : Component} (hc : c ∈ f.components) :
    ¬ (f.reconcile cache).2.Outdated cache c := by
  intro houtdated
  have hstale : c.name ∈ (f.reconcile cache).2.staleFields cache := by
    refine mem_staleFields_iff_outdated.mpr ⟨c, ?_, rfl, houtdated⟩
    rw [components_reconcile]
    exact hc
  rw [staleFields_reconcile] at hstale
  cases hstale

/-- Reconciling resets exactly the fields of outdated components, each to the empty text, and
leaves no component outdated. All else is kept, and to reconcile once more changes nothing. -/
theorem reconcile_settles (f : Form) (cache : ChoiceCache) :
    let names := (f.reconcile cache).1
    let after := (f.reconcile cache).2
    (∀ c ∈ after.components, ¬ after.Outdated cache c) ∧
    (∀ name, name ∈ names ↔ ∃ c ∈ f.components, c.name = name ∧ f.Outdated cache c) ∧
    (∀ name, name ∈ names ↔ after.values.get? name ≠ f.values.get? name) ∧
    (∀ name, name ∈ names ↔ after.value? name ≠ f.value? name) ∧
    (∀ name ∈ names, after.values.get? name = some (.str "")) ∧
    (after.dirty = true ↔ f.dirty = true ∨ names ≠ []) ∧
    after = { f with values := after.values, dirty := after.dirty } ∧
    after.reconcile cache = ([], after) := by
  have hwhole := f.reset_eq (f.staleFields cache)
  refine ⟨?_, ?_, ?_, ?_, ?_, ?_, ?_, ?_⟩
  · intro c hc
    rw [components_reconcile] at hc
    exact not_outdated_reconcile hc
  · exact fun name => mem_staleFields_iff_outdated
  · exact fun name => mem_staleFields_iff_get?
  · exact fun name => mem_staleFields_iff_value?
  · exact fun name hname => get?_reconcile_of_stale hname
  · rw [reconcile_eq, hwhole]
    simp
  · rw [reconcile_eq]
    exact hwhole.trans (by rw [hwhole])
  · rw [reconcile_eq, reconcile_eq, ← reconcile_eq f cache, staleFields_reconcile]
    rfl

end NodeCanvas.Form
