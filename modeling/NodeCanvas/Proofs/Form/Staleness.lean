import NodeCanvas.Proofs.Form.Reconcile

namespace NodeCanvas

theorem ChoiceCache.choices?_eq_some_iff {cache : ChoiceCache} {key : ChoiceKey}
    {choices : List Choice} :
    cache.choices? key = some choices ↔ cache.slot? key = some (.ready choices) := by
  unfold ChoiceCache.choices?
  split
  · rename_i hslot
    simp [hslot]
  · rename_i hother
    simp only [reduceCtorEq, false_iff]
    exact hother choices

theorem leftChoices_eq_true_iff {current : Option Json} {slot : Option ChoiceSlot} :
    leftChoices current slot = true ↔ ∃ choices text, slot = some (.ready choices) ∧
      (current.bind Json.choiceText?).filter (fun text => !text.isEmpty) = some text ∧
      ∀ choice ∈ choices, choice.value ≠ text := by
  unfold leftChoices
  split
  · rename_i choices text htext
    simp [htext]
  · rename_i hother
    simp only [Bool.false_eq_true, false_iff]
    rintro ⟨choices, text, hslot, htext, -⟩
    exact hother choices text hslot htext

/-- The choices of the component are the list of a family that another field selects. -/
def Component.DependsOn (c : Component) (family field : String) : Prop :=
  c.fetched? = some { family, dependsOn := some field }

instance (c : Component) (family field : String) : Decidable (c.DependsOn family field) :=
  inferInstanceAs (Decidable (_ = _))

namespace Form

def text? (f : Form) (name : String) : Option String :=
  ((f.value? name).bind Json.choiceText?).filter fun text => !text.isEmpty

/-- A list that has arrived for the component does not offer the text. -/
def Rejects (f : Form) (cache : ChoiceCache) (c : Component) (text : String) : Prop :=
  ∃ family field selector choices, c.DependsOn family field ∧ f.text? field = some selector ∧
    cache.choices? (.dependent family selector) = some choices ∧
    ∀ choice ∈ choices, choice.value ≠ text

variable {f : Form} {cache : ChoiceCache}

theorem choiceKey?_of_dependsOn {c : Component} {family field : String}
    (h : c.DependsOn family field) :
    f.choiceKey? c = (f.text? field).map (ChoiceKey.dependent family) := by
  have hfetched : c.fetched? = some { family, dependsOn := some field } := h
  rw [choiceKey?, hfetched]
  rfl

theorem isStale_iff {c : Component} :
    f.isStale cache c = true ↔ ∃ text, f.text? c.name = some text ∧ f.Rejects cache c text := by
  constructor
  · intro h
    unfold isStale at h
    split at h
    · rename_i source key hsource hkey
      rw [Bool.and_eq_true, leftChoices_eq_true_iff] at h
      obtain ⟨hdepends, choices, text, hslot, htext, hnone⟩ := h
      obtain ⟨field, hfield⟩ := Option.isSome_iff_exists.mp hdepends
      have hdependsOn : c.DependsOn source.family field := by
        rw [Component.DependsOn, hsource, ← hfield]
      rw [choiceKey?_of_dependsOn hdependsOn] at hkey
      obtain ⟨selector, hselector, rfl⟩ := Option.map_eq_some_iff.mp hkey
      exact ⟨text, htext, source.family, field, selector, choices, hdependsOn, hselector,
        ChoiceCache.choices?_eq_some_iff.mpr hslot, hnone⟩
    · cases h
  · rintro ⟨text, htext, family, field, selector, choices, hdependsOn, hselector, harrived, hnone⟩
    have hkey : f.choiceKey? c = some (.dependent family selector) := by
      rw [choiceKey?_of_dependsOn hdependsOn, hselector]
      rfl
    have hfetched : c.fetched? = some { family, dependsOn := some field } := hdependsOn
    have hleft : leftChoices (f.value? c.name) (cache.slot? (.dependent family selector)) = true :=
      leftChoices_eq_true_iff.mpr
        ⟨choices, text, ChoiceCache.choices?_eq_some_iff.mp harrived, htext, hnone⟩
    rw [isStale, hfetched, hkey]
    simp only [hleft, Option.isSome_some, Bool.and_self]

theorem mem_staleFields_iff {name : String} :
    name ∈ f.staleFields cache ↔ ∃ text, f.text? name = some text ∧
      ∃ c ∈ f.components, c.name = name ∧ f.Rejects cache c text := by
  simp only [staleFields, List.mem_map, List.mem_filter, isStale_iff]
  constructor
  · rintro ⟨c, ⟨hc, text, htext, hrejects⟩, rfl⟩
    exact ⟨text, htext, c, hc, rfl, hrejects⟩
  · rintro ⟨text, htext, c, hc, rfl, hrejects⟩
    exact ⟨c, ⟨hc, text, htext, hrejects⟩, rfl⟩

theorem components_reconcile (f : Form) (cache : ChoiceCache) :
    (f.reconcile cache).2.components = f.components := by
  rw [components, components, groups_reconcile]

theorem value?_reconcile_of_not_mem {name : String} (h : name ∉ f.staleFields cache) :
    (f.reconcile cache).2.value? name = f.value? name := by
  rw [value?, value?, get?_reconcile_of_not_mem f cache h, component?, component?,
    components_reconcile]

theorem text?_of_empty {name : String} (h : f.value? name = some (.str "")) :
    f.text? name = none := by
  rw [text?, h]
  rfl

theorem text?_of_get? {name text : String} (h : f.values.get? name = some (.str text))
    (hne : text ≠ "") : f.text? name = some text := by
  rw [text?, value?_of_get? f h]
  simpa [Json.choiceText?, Json.displayText] using hne

theorem text?_reconcile (f : Form) (cache : ChoiceCache) (name : String) :
    (f.reconcile cache).2.text? name =
      if name ∈ f.staleFields cache then none else f.text? name := by
  split
  · rename_i hstale
    apply text?_of_empty
    apply value?_of_get?
    rw [get?_reconcile, if_pos hstale]
  · rename_i hkept
    rw [text?, value?_reconcile_of_not_mem hkept]
    rfl

theorem text?_of_reconcile {name text : String}
    (h : (f.reconcile cache).2.text? name = some text) :
    name ∉ f.staleFields cache ∧ f.text? name = some text := by
  rw [text?_reconcile] at h
  split at h
  · cases h
  · rename_i hkept
    exact ⟨hkept, h⟩

/-- What is stale after reconciling was stale before, as far as the same lists are concerned. -/
theorem mem_staleFields_of_reconcile {more : ChoiceCache} {name : String}
    (h : name ∈ (f.reconcile cache).2.staleFields more) : name ∈ f.staleFields more := by
  obtain ⟨text, htext, c, hc, hname, hrejects⟩ := mem_staleFields_iff.mp h
  obtain ⟨family, field, selector, choices, hdepends, hselector, harrived, hnone⟩ := hrejects
  rw [components_reconcile] at hc
  exact mem_staleFields_iff.mpr ⟨text, (text?_of_reconcile htext).2, c, hc, hname, family, field,
    selector, choices, hdepends, (text?_of_reconcile hselector).2, harrived, hnone⟩

end Form

end NodeCanvas
