import Mathlib.Data.Fintype.EquivFin
import NodeCanvas.Proofs.Form.Arrivals

namespace NodeCanvas

theorem ChoiceCache.choices?_complete (c : ChoiceCache) (key : ChoiceKey) (choices : List Choice)
    (query : ChoiceKey) :
    (c.complete key (.ok choices)).choices? query =
      if query = key then some choices else c.choices? query := by
  split
  · rename_i hsame
    rw [hsame, choices?_complete_self]
  · rename_i hother
    exact choices?_complete_of_ne c _ hother

/-- What has arrived after a failure had arrived before it. -/
theorem ChoiceCache.choices?_of_complete_error {c : ChoiceCache} {key query : ChoiceKey}
    {message : String} {choices : List Choice}
    (h : (c.complete key (.error message)).choices? query = some choices) :
    c.choices? query = some choices := by
  by_cases hsame : query = key
  · rw [hsame, choices?, complete, slot?, Dict.get?_insert_self] at h
    cases h
  · rwa [choices?_complete_of_ne c _ hsame] at h

namespace Form

def holding (f : Form) (values : Parameters) : Form := { f with values }

section Texts

variable {f : Form} {name text : String}

/-- A text is edited, or the default of some component. -/
theorem get?_or_default_of_text? (h : f.text? name = some text) :
    (∃ value, f.values.get? name = some value ∧ value.choiceText? = some text) ∨
      ∃ c ∈ f.components, c.default?.bind Json.choiceText? = some text := by
  obtain ⟨htext, -⟩ := Option.filter_eq_some_iff.mp h
  obtain ⟨value, hvalue, htext⟩ := Option.bind_eq_some_iff.mp htext
  rcases Option.or_eq_some_iff.mp hvalue with hedited | ⟨-, hdefault⟩
  · exact .inl ⟨value, hedited, htext⟩
  · obtain ⟨c, hc, hdefault⟩ := Option.bind_eq_some_iff.mp hdefault
    refine .inr ⟨c, List.mem_of_find?_eq_some hc, ?_⟩
    rw [hdefault, Option.bind_some, htext]

/-- Some text is neither a given one nor the default of any component. -/
theorem exists_fresh_text (f : Form) (taken : List String) :
    ∃ text ∉ taken, ∀ c ∈ f.components, c.default?.bind Json.choiceText? ≠ some text := by
  let defaults := f.components.filterMap fun c => c.default?.bind Json.choiceText?
  obtain ⟨text, htext⟩ := Infinite.exists_notMem_finset (taken ++ defaults).toFinset
  rw [List.mem_toFinset, List.mem_append, not_or] at htext
  refine ⟨text, htext.1, fun c hc hdefault => htext.2 ?_⟩
  exact List.mem_filterMap.mpr ⟨c, hc, hdefault⟩

end Texts

section Steps

variable {f : Form} {cache : ChoiceCache} {name text : String}

theorem mem_staleFields_of_dependsOn {c : Component} {family field selector : String}
    {choices : List Choice} (hc : c ∈ f.components) (hdepends : c.DependsOn family field)
    (hselector : f.text? field = some selector) (htext : f.text? c.name = some text)
    (harrived : cache.choices? (.dependent family selector) = some choices)
    (hnone : ∀ choice ∈ choices, choice.value ≠ text) : c.name ∈ f.staleFields cache :=
  mem_staleFields_iff.mpr ⟨text, htext, c, hc, rfl, family, field, selector, choices, hdepends,
    hselector, harrived, hnone⟩

/-- A text stays if every list that is selected and has arrived offers it. -/
theorem get?_reconcile_of_offered (hheld : f.values.get? name = some (.str text)) (hne : text ≠ "")
    (hoffered : ∀ family field selector choices, f.text? field = some selector →
      cache.choices? (.dependent family selector) = some choices →
      ∃ choice ∈ choices, choice.value = text) :
    (f.reconcile cache).2.values.get? name = some (.str text) := by
  rw [get?_reconcile_of_not_mem, hheld]
  intro hstale
  obtain ⟨old, hold, c, -, -, hrejects⟩ := mem_staleFields_iff.mp hstale
  obtain ⟨family, field, selector, choices, -, hselector, harrived, hnone⟩ := hrejects
  rw [text?_of_get? hheld hne] at hold
  obtain rfl := Option.some.inj hold
  obtain ⟨choice, hchoice, hvalue⟩ := hoffered family field selector choices hselector harrived
  exact hnone choice hchoice hvalue

theorem get?_reconcile_of_only (hheld : f.values.get? name = some (.str text)) (hne : text ≠ "")
    (honly : ∀ key choices, cache.choices? key = some choices → choices = [Choice.plain text]) :
    (f.reconcile cache).2.values.get? name = some (.str text) := by
  refine get?_reconcile_of_offered hheld hne ?_
  intro _ _ _ choices _ harrived
  rw [honly _ choices harrived]
  exact ⟨_, List.mem_singleton_self _, rfl⟩

theorem get?_reconcile_of_empty (h : f.values.get? name = some (.str "")) :
    (f.reconcile cache).2.values.get? name = some (.str "") := by
  rw [get?_reconcile, h, ite_self]

theorem staleFields_eq_nil (h : ∀ c ∈ f.components, ∀ family field, ¬ c.DependsOn family field) :
    f.staleFields cache = [] := by
  refine List.eq_nil_iff_forall_not_mem.mpr fun name hstale => ?_
  obtain ⟨text, -, c, hc, -, family, field, -, -, hdepends, -⟩ := mem_staleFields_iff.mp hstale
  exact h c hc family field hdepends

theorem receive_of_independent
    (h : ∀ c ∈ f.components, ∀ family field, ¬ c.DependsOn family field)
    (arrivals : List Arrival) : (f.receive cache arrivals).1 = f := by
  induction arrivals generalizing cache with
  | nil => rfl
  | cons a rest ih =>
      have hkept : (f.reconcile (cache.complete a.1 a.2)).2 = f := by
        rw [reconcile_eq, staleFields_eq_nil h]
        rfl
      rw [receive, hkept]
      exact ih

end Steps

/-- Values do not depend on the order in which lists arrive for keys that the lists at hand
admit. -/
def OrderFree (f : Form) (admits : ChoiceCache → ChoiceKey → Prop) : Prop :=
  ∀ (values : Parameters) (cache : ChoiceCache) (arrivals other : List Arrival),
    arrivals.Perm other → (arrivals.map (·.1)).Nodup → (∀ a ∈ arrivals, admits cache a.1) →
    ((f.holding values).receive cache arrivals).1.values =
      ((f.holding values).receive cache other).1.values

theorem orderFree_of_not_chained {f : Form} (hf : ¬ f.Chained) :
    f.OrderFree fun cache key => cache.choices? key = none := by
  intro values cache arrivals other hperm hkeys hawaited
  have hother : (other.map (·.1)).Nodup := (hperm.map _).nodup_iff.mp hkeys
  have hlater : ∀ a ∈ other, cache.choices? a.1 = none :=
    fun a ha => hawaited a (hperm.mem_iff.mpr ha)
  rcases eq_or_ne arrivals [] with rfl | hne
  · rw [List.nil_perm.mp hperm]
  · have hotherNe : other ≠ [] := fun h => hne (List.perm_nil.mp (h ▸ hperm))
    have hholding : ¬ (f.holding values).Chained := hf
    rw [values_receive hholding hne hkeys hawaited, values_receive hholding hotherNe hother hlater,
      ChoiceCache.completeAll_perm cache hperm hkeys]

theorem orderFree_of_independent {f : Form}
    (hf : ∀ c ∈ f.components, ∀ family field, ¬ c.DependsOn family field) :
    f.OrderFree fun _ _ => True := by
  intro values cache arrivals other _ _ _
  have hholding : ∀ c ∈ (f.holding values).components, ∀ family field,
      ¬ c.DependsOn family field := hf
  rw [receive_of_independent hholding, receive_of_independent hholding]

section Pairs

variable {f : Form} {b c : Component} {family field other selector held fresh : String}

variable (other) in
/-- The list that resets the middle field comes first: the field behind it keeps its text. -/
theorem get?_receive_reset_first (hb : b ∈ f.components) (hbdepends : b.DependsOn family field)
    (hselector : f.text? field = some selector) (hfresh : f.text? b.name = some fresh)
    (honly : ∀ name, f.text? name = some fresh → name = b.name) (hne : held ≠ fresh)
    (hheld : f.values.get? c.name = some (.str held)) (hheldNe : held ≠ "") :
    (f.receive {} [(.dependent family selector, .ok [Choice.plain held]),
      (.dependent other fresh, .ok [])]).1.values.get? c.name = some (.str held) := by
  let early : ChoiceCache :=
    ChoiceCache.complete {} (.dependent family selector) (.ok [Choice.plain held])
  have hearly : ∀ key choices, early.choices? key = some choices →
      choices = [Choice.plain held] := by
    intro key choices harrived
    rw [ChoiceCache.choices?_complete] at harrived
    split at harrived
    · exact (Option.some.inj harrived).symm
    · cases harrived
  have hkept := get?_reconcile_of_only hheld hheldNe hearly
  have hreset : b.name ∈ f.staleFields early := by
    refine mem_staleFields_of_dependsOn hb hbdepends hselector hfresh
      (ChoiceCache.choices?_complete_self ..) ?_
    intro choice hchoice
    rw [List.mem_singleton.mp hchoice]
    exact hne
  refine get?_reconcile_of_offered hkept hheldNe ?_
  intro _ asked chosen choices hchosen harrived
  -- The middle field has no text any more, and no other field selects the second list.
  obtain ⟨hasked, hchosen⟩ := text?_of_reconcile hchosen
  have hother : chosen ≠ fresh := by
    rintro rfl
    exact hasked (honly asked hchosen ▸ hreset)
  rw [ChoiceCache.choices?_complete, if_neg] at harrived
  · rw [hearly _ choices harrived]
    exact ⟨_, List.mem_singleton_self _, rfl⟩
  · intro hkey
    exact hother (Option.some.inj (congrArg ChoiceKey.selector hkey))

/-- The list that the middle field selects comes first: the field behind it is reset. -/
theorem get?_receive_selected_first (hc : c ∈ f.components) (hcdepends : c.DependsOn other b.name)
    (hfresh : f.text? b.name = some fresh) (hheld : f.text? c.name = some held) (a : Arrival) :
    (f.receive {} [(.dependent other fresh, .ok []), a]).1.values.get? c.name =
      some (.str "") := by
  have hreset : c.name ∈
      f.staleFields (ChoiceCache.complete {} (.dependent other fresh) (.ok [])) :=
    mem_staleFields_of_dependsOn hc hcdepends hfresh hheld
      (ChoiceCache.choices?_complete_self ..) (by simp)
  apply get?_reconcile_of_empty
  rw [get?_reconcile, if_pos hreset]

end Pairs

/-- Values under which two fields hold different texts, and the one of the middle field is the text
of no other field. -/
theorem exists_telling_values (f : Form) {middle behind : String} (field : String)
    (hapart : behind ≠ middle) :
    ∃ values fresh selector, fresh ≠ "a" ∧
      (f.holding values).text? middle = some fresh ∧
      (∀ name, (f.holding values).text? name = some fresh → name = middle) ∧
      (f.holding values).values.get? behind = some (.str "a") ∧
      (f.holding values).text? field = some selector ∧ (field ≠ middle → selector ≠ fresh) := by
  obtain ⟨fresh, htaken, hdefaults⟩ := f.exists_fresh_text ["", "a"]
  obtain ⟨hfreshNe, hne⟩ : fresh ≠ "" ∧ fresh ≠ "a" := by simpa using htaken
  let values : Parameters :=
    .ofList [(field, .str "a"), (behind, .str "a"), (middle, .str fresh)]
  have hget : ∀ name, (f.holding values).values.get? name =
      if name = middle then some (.str fresh)
      else if name = behind ∨ name = field then some (.str "a") else none := by
    intro name
    simp only [holding, values, Dict.ofList, Dict.insertAll_cons, Dict.insertAll_nil,
      Dict.get?_insert, Std.LawfulEqCmp.compare_eq_iff_eq, Dict.get?_empty]
    split_ifs <;> simp_all
  have hmiddle : (f.holding values).text? middle = some fresh :=
    text?_of_get? ((hget middle).trans (if_pos rfl)) hfreshNe
  have hbehind : (f.holding values).values.get? behind = some (.str "a") := by
    rw [hget, if_neg hapart, if_pos (.inl rfl)]
  have honly : ∀ name, (f.holding values).text? name = some fresh → name = middle := by
    intro name htext
    rcases get?_or_default_of_text? htext with ⟨value, hvalue, htext⟩ | ⟨c, hc, hdefault⟩
    · by_contra hother
      rw [hget, if_neg hother] at hvalue
      split at hvalue
      · obtain rfl := Option.some.inj hvalue
        exact hne (Option.some.inj htext).symm
      · cases hvalue
    · exact absurd hdefault (hdefaults c hc)
  by_cases hsame : field = middle
  · exact ⟨values, fresh, fresh, hne, hmiddle, honly, hbehind, hsame ▸ hmiddle,
      fun h => absurd hsame h⟩
  · refine ⟨values, fresh, "a", hne, hmiddle, honly, hbehind, ?_, fun _ => hne.symm⟩
    apply text?_of_get? _ (by decide)
    rw [hget, if_neg hsame, if_pos (.inr rfl)]

theorem not_orderFree_of_chained {f : Form} (hf : f.Chained) :
    ¬ f.OrderFree fun cache key => cache.choices? key = none := by
  intro hfree
  obtain ⟨b, hb, c, hc, family, field, other, hbdepends, hcdepends, hapart, hnotSelf⟩ := hf
  obtain ⟨values, fresh, selector, hne, hfresh, honly, hheld, hselector, hchosen⟩ :=
    f.exists_telling_values field hapart
  have hkeys : ChoiceKey.dependent other fresh ≠ .dependent family selector := by
    intro hkey
    obtain ⟨hfamily, hsame⟩ := ChoiceKey.mk.inj hkey
    by_cases hself : field = b.name
    · exact hnotSelf ⟨hself, hfamily.symm⟩
    · exact hchosen hself (Option.some.inj hsame).symm
  have hequal := hfree values {} _ _
    (List.Perm.swap (.dependent family selector, .ok [Choice.plain "a"])
      (.dependent other fresh, .ok []) []) (by simpa using hkeys) fun _ _ => rfl
  have hreset := get?_receive_selected_first (f := f.holding values) hc hcdepends hfresh
    (text?_of_get? hheld (by decide)) (.dependent family selector, .ok [Choice.plain "a"])
  have hkept := get?_receive_reset_first (f := f.holding values) other hb hbdepends hselector
    hfresh honly hne.symm hheld (by decide)
  rw [hequal, hkept] at hreset
  exact absurd hreset (by decide)

/-- A list that comes in the place of another one does so before or after the fields were compared
with the other one. -/
theorem not_orderFree_of_dependsOn {f : Form} {c : Component} {family field : String}
    (hc : c ∈ f.components) (hdepends : c.DependsOn family field) :
    ¬ f.OrderFree fun _ _ => True := by
  intro hfree
  let values : Parameters := .ofList [(field, .str "a"), (c.name, .str "a")]
  have hheld : (f.holding values).values.get? c.name = some (.str "a") := by
    simp [holding, values, Dict.ofList, Dict.insertAll_cons, Dict.insertAll_nil]
  have hselector : (f.holding values).text? field = some "a" := by
    apply text?_of_get? _ (by decide)
    simp [holding, values, Dict.ofList, Dict.insertAll_cons, Dict.insertAll_nil, Dict.get?_insert]
  have htext := text?_of_get? hheld (by decide)
  let key : ChoiceKey := .dependent family "a"
  let cache : ChoiceCache := ChoiceCache.complete {} key (.ok [])
  let offer : Arrival := (key, .ok [Choice.plain "a"])
  let failure : Arrival := (.independent family, .error "")
  have hequal := hfree values cache _ _ (List.Perm.swap offer failure [])
    (by simp [offer, failure, key, ChoiceKey.dependent, ChoiceKey.independent])
    fun _ _ => trivial
  have hreset : ((f.holding values).receive cache [failure, offer]).1.values.get? c.name =
      some (.str "") := by
    apply get?_reconcile_of_empty
    rw [get?_reconcile, if_pos]
    refine mem_staleFields_of_dependsOn hc hdepends hselector htext ?_ (List.forall_mem_nil _)
    rw [ChoiceCache.choices?_complete_of_ne, ChoiceCache.choices?_complete_self]
    simp [failure, ChoiceKey.dependent, ChoiceKey.independent]
  have honly : ∀ query choices, (cache.complete offer.1 offer.2).choices? query = some choices →
      choices = [Choice.plain "a"] := by
    intro query choices harrived
    rw [ChoiceCache.choices?_complete, ChoiceCache.choices?_complete] at harrived
    split at harrived
    · exact (Option.some.inj harrived).symm
    · cases harrived
  have hoffered := get?_reconcile_of_only hheld (by decide) honly
  have hkept : ((f.holding values).receive cache [offer, failure]).1.values.get? c.name =
      some (.str "a") :=
    get?_reconcile_of_only hoffered (by decide) fun _ _ harrived =>
      honly _ _ (ChoiceCache.choices?_of_complete_error harrived)
  rw [hequal, hkept] at hreset
  exact absurd hreset (by decide)

/-- Lists that are awaited may come in any order exactly if no field that selects choices of
another one can be reset by a list other than the one it selects; lists that replace earlier ones
may do so exactly if no choices are selected by a field at all. -/
theorem orderFree_iff (f : Form) :
    ((f.OrderFree fun cache key => cache.choices? key = none) ↔ ¬ f.Chained) ∧
      ((f.OrderFree fun _ _ => True) ↔
        ∀ c ∈ f.components, ∀ family field, ¬ c.DependsOn family field) := by
  refine ⟨⟨fun h hf => not_orderFree_of_chained hf h, orderFree_of_not_chained⟩, ?_,
    orderFree_of_independent⟩
  exact fun h c hc family field hdepends => not_orderFree_of_dependsOn hc hdepends h

/-- A service selects a model, and the model a variant. -/
def modelForm : Form :=
  ofNode "q" {
    key := "model_node", name := "Model"
    layout := some { groups := [{ name := "g", components := [
      .plain "text_input" "service",
      { Component.plain "select" "model" with
        source := some { family := "models", dependsOn := some "service" } },
      { Component.plain "select" "variant" with
        source := some { family := "variants", dependsOn := some "model" } }] }] } }
    (.ofList [("service", .str "s"), ("model", .str "m"), ("variant", .str "v")])

/-- Two empty lists: without models the variant can no longer be compared with its own list. -/
theorem modelForm_not_orderFree :
    (modelForm.receive {} [(.dependent "models" "s", .ok []),
      (.dependent "variants" "m", .ok [])]).1.values.get? "variant" = some (.str "v") ∧
    (modelForm.receive {} [(.dependent "variants" "m", .ok []),
      (.dependent "models" "s", .ok [])]).1.values.get? "variant" = some (.str "") ∧
    ¬ modelForm.OrderFree fun cache key => cache.choices? key = none := by
  have hkept : (modelForm.receive {} [(.dependent "models" "s", .ok []),
      (.dependent "variants" "m", .ok [])]).1.values.get? "variant" = some (.str "v") := by
    decide +kernel
  have hreset : (modelForm.receive {} [(.dependent "variants" "m", .ok []),
      (.dependent "models" "s", .ok [])]).1.values.get? "variant" = some (.str "") := by
    decide +kernel
  refine ⟨hkept, hreset, fun hfree => ?_⟩
  have hequal := hfree modelForm.values {} _ _ (List.Perm.swap (.dependent "variants" "m", .ok [])
    (.dependent "models" "s", .ok []) []) (by decide) fun _ _ => rfl
  rw [show modelForm.holding modelForm.values = modelForm from rfl] at hequal
  rw [hequal, hreset] at hkept
  exact absurd hkept (by decide)

end Form

end NodeCanvas
