import NodeCanvas.Proofs.Form.Arrivals
import NodeCanvas.Proofs.Form.Settling

namespace NodeCanvas

/-- Without repetitions the items of a list stand in the order in which they first occur in it. -/
theorem pairwise_idxOf_eraseDups {α : Type} [BEq α] [LawfulBEq α] (items : List α)
    (keep : α → Bool) :
    (items.filter keep).eraseDups.Pairwise fun a b => items.idxOf a < items.idxOf b := by
  induction items generalizing keep with
  | nil => simp
  | cons item rest ih =>
      -- Where the first item is not kept, all places are one further on.
      have hlater : ∀ keep : α → Bool, keep item = false →
          (rest.filter keep).eraseDups.Pairwise fun a b =>
            (item :: rest).idxOf a < (item :: rest).idxOf b := by
        intro keep hitem
        refine (ih keep).imp_of_mem fun {a b} ha hb hlt => ?_
        rw [List.mem_eraseDups, List.mem_filter] at ha hb
        have hne : ∀ c, keep c = true → item ≠ c := by
          rintro c hc rfl
          rw [hitem] at hc
          cases hc
        rw [List.idxOf_cons_ne _ (hne a ha.2), List.idxOf_cons_ne _ (hne b hb.2)]
        exact Nat.succ_lt_succ hlt
      cases hitem : keep item with
      | false =>
          rw [List.filter_cons_of_neg (by simp [hitem])]
          exact hlater keep hitem
      | true =>
          rw [List.filter_cons_of_pos hitem, List.eraseDups_cons, List.filter_filter]
          refine List.pairwise_cons.mpr ⟨fun b hb => ?_, hlater _ (by simp)⟩
          rw [List.mem_eraseDups, List.mem_filter] at hb
          have hne : item ≠ b := by
            rintro rfl
            simp at hb
          rw [List.idxOf_cons_self, List.idxOf_cons_ne _ hne]
          exact Nat.succ_pos _

def Service.Answers.arrival (service : Service.Answers) (key : ChoiceKey) : Arrival :=
  (key, Except.mapError Failure.message (service (.choices key)))

theorem Service.Answers.slot_arrival {service : Service.Answers} {key : ChoiceKey}
    {choices : List Choice} (h : service (.choices key) = .ok choices) :
    (service.arrival key).slot = .ready choices := by
  rw [Arrival.slot, arrival, h]
  rfl

namespace ChoiceCache

/-- Only a list that has arrived or is on its way is not begun. -/
theorem begin_eq_true_iff {c : ChoiceCache} {key : ChoiceKey} :
    (c.begin key).1 = true ↔
      c.slot? key = none ∨ ∃ message, c.slot? key = some (.failed message) := by
  unfold begin
  split <;> simp_all

theorem complete_begin (c : ChoiceCache) (key : ChoiceKey)
    (answer : Except String (List Choice)) :
    (c.begin key).2.complete key answer = c.complete key answer := by
  unfold begin
  split
  · rfl
  · rfl
  · simp only [complete, Dict.insert_insert]
  · simp only [complete, Dict.insert_insert]

section Fetched

variable {c : ChoiceCache} {keys : List ChoiceKey} {key : ChoiceKey} (service : Service.Answers)

theorem slot?_completeAll_of_mem (hkeys : keys.Nodup) (hmem : key ∈ keys) :
    (c.completeAll (keys.map service.arrival)).slot? key = some (service.arrival key).slot := by
  rw [completeAll_eq, slot?, List.map_map]
  apply Dict.get?_insertAll_of_mem
  · rw [List.map_map]
    simpa [Function.comp_def, Service.Answers.arrival] using hkeys
  · exact List.mem_map.mpr ⟨key, hmem, rfl⟩

theorem slot?_completeAll_of_not_mem (hmem : key ∉ keys) :
    (c.completeAll (keys.map service.arrival)).slot? key = c.slot? key := by
  rw [completeAll_eq, slot?, List.map_map]
  apply Dict.get?_insertAll_of_not_mem
  intro entry hentry heq
  obtain ⟨other, hother, rfl⟩ := List.mem_map.mp hentry
  exact hmem (heq ▸ hother)

end Fetched

end ChoiceCache

namespace Form

/-- New lists are asked for one after the other, and what comes for them is kept. -/
theorem fetchAll_run {cache : ChoiceCache} {keys : List ChoiceKey} (hkeys : keys.Nodup)
    (hnew : ∀ key ∈ keys, cache.slot? key = none) (service : Service.Answers) :
    (fetchAll cache keys).run service =
      (cache.completeAll (keys.map service.arrival), keys.map Call.choices) := by
  induction keys generalizing cache with
  | nil => rfl
  | cons key rest ih =>
      rw [List.nodup_cons] at hkeys
      have hbegin : cache.begin key = (true, (cache.begin key).2) := by
        rw [← ChoiceCache.begin_eq_true_iff.mpr (.inl (hnew key (List.mem_cons_self ..)))]
      have hrest : ∀ other ∈ rest,
          (cache.complete key (service.arrival key).2).slot? other = none := by
        intro other hother
        rw [ChoiceCache.slot?_complete_of_ne]
        · exact hnew other (List.mem_cons_of_mem _ hother)
        · rintro rfl
          exact hkeys.1 hother
      rw [fetchAll, hbegin]
      simp only [Dialogue.run_ask, ChoiceCache.complete_begin]
      have hlater := ih hkeys.2 hrest
      simp only [Service.Answers.arrival] at hlater
      rw [hlater]
      rfl

section Missing

variable {f : Form} {cache : ChoiceCache}

def neededKeys (f : Form) : List ChoiceKey :=
  (f.components.filter (·.visible)).filterMap f.choiceKey?

theorem mem_missingKeys_iff {key : ChoiceKey} :
    key ∈ f.missingKeys cache ↔ cache.slot? key = none ∧
      ∃ c ∈ f.components, c.visible = true ∧ f.choiceKey? c = some key := by
  simp only [missingKeys, List.mem_eraseDups, List.mem_filter, List.mem_filterMap,
    Option.isNone_iff_eq_none]
  constructor
  · rintro ⟨⟨c, ⟨hc, hvisible⟩, hkey⟩, hnew⟩
    exact ⟨hnew, c, hc, hvisible, hkey⟩
  · rintro ⟨hnew, c, hc, hvisible, hkey⟩
    exact ⟨⟨c, ⟨hc, hvisible⟩, hkey⟩, hnew⟩

theorem not_mem_missingKeys {key : ChoiceKey} {slot : ChoiceSlot}
    (h : cache.slot? key = some slot) : key ∉ f.missingKeys cache := by
  intro hmem
  rw [(mem_missingKeys_iff.mp hmem).1] at h
  cases h

theorem missingKeys_pairwise (f : Form) (cache : ChoiceCache) :
    (f.missingKeys cache).Pairwise fun a b => f.neededKeys.idxOf a < f.neededKeys.idxOf b :=
  pairwise_idxOf_eraseDups f.neededKeys _

theorem missingKeys_nodup (f : Form) (cache : ChoiceCache) : (f.missingKeys cache).Nodup := by
  refine (f.missingKeys_pairwise cache).imp ?_
  rintro a _ hlt rfl
  exact Nat.lt_irrefl _ hlt

/-- The lists of which nothing was kept, as the service sends them, beside all that was kept. -/
def fetched (f : Form) (cache : ChoiceCache) (service : Service.Answers) : ChoiceCache :=
  cache.completeAll ((f.missingKeys cache).map service.arrival)

theorem resolve_eq (f : Form) (cache : ChoiceCache) (service : Service.Answers) :
    (f.resolve cache).run service =
      (((f.reconcile (f.fetched cache service)).1, (f.reconcile (f.fetched cache service)).2,
        f.fetched cache service), (f.missingKeys cache).map Call.choices) := by
  have hfetch : (fetchAll cache (f.missingKeys cache)).run service =
      (f.fetched cache service, (f.missingKeys cache).map Call.choices) :=
    fetchAll_run (f.missingKeys_nodup cache) (fun key hkey => (mem_missingKeys_iff.mp hkey).1)
      service
  unfold resolve
  simp only [bind, Dialogue.run_bind, hfetch]
  simp [pure]

/-- What is kept of a list stays as it is. -/
theorem slot?_fetched_of_some {key : ChoiceKey} {slot : ChoiceSlot}
    (h : cache.slot? key = some slot) (service : Service.Answers) :
    (f.fetched cache service).slot? key = some slot := by
  rw [fetched, ChoiceCache.slot?_completeAll_of_not_mem service (not_mem_missingKeys h), h]

theorem slot?_fetched_of_none {c : Component} {key : ChoiceKey} (hc : c ∈ f.components)
    (hvisible : c.visible = true) (hkey : f.choiceKey? c = some key)
    (h : cache.slot? key = none) (service : Service.Answers) :
    (f.fetched cache service).slot? key = some (service.arrival key).slot :=
  ChoiceCache.slot?_completeAll_of_mem service (f.missingKeys_nodup cache)
    (mem_missingKeys_iff.mpr ⟨h, c, hc, hvisible, hkey⟩)

theorem components_resolve (f : Form) (cache : ChoiceCache) (service : Service.Answers) :
    ((f.resolve cache).run service).1.2.1.components = f.components := by
  rw [resolve_eq, components_reconcile]

/-- No reset lets a component need another list. -/
theorem choiceKey?_of_reconcile {c : Component} {key : ChoiceKey}
    (h : (f.reconcile cache).2.choiceKey? c = some key) : f.choiceKey? c = some key := by
  unfold choiceKey? at h ⊢
  cases hfetched : c.fetched? with
  | none =>
      rw [hfetched] at h
      cases h
  | some source =>
      rw [hfetched] at h
      cases hdepends : source.dependsOn with
      | none => simpa [hdepends] using h
      | some field =>
          simp only [hdepends] at h ⊢
          obtain ⟨selector, hselector, rfl⟩ := Option.map_eq_some_iff.mp h
          exact Option.map_eq_some_iff.mpr ⟨selector, (text?_of_reconcile hselector).2, rfl⟩

end Missing

def AllArrived (f : Form) (lists : ChoiceCache) : Prop :=
  ∀ c ∈ f.components, c.visible = true → ∀ key, f.choiceKey? c = some key →
    ∃ choices, lists.slot? key = some (.ready choices)

def ShowsFailure (f : Form) (lists : ChoiceCache) : Prop :=
  ∃ c ∈ f.components, c.visible = true ∧ ∃ key message, f.choiceKey? c = some key ∧
    lists.slot? key = some (.failed message)

/-- Where every list can be had, one that is needed arrives, unless its failure was kept. -/
theorem ready_fetched_iff {f : Form} {cache : ChoiceCache} {service : Service.Answers}
    (hidle : ∀ key, cache.slot? key ≠ some .loading)
    (hanswers : ∀ key, ∃ choices, service (.choices key) = .ok choices)
    {c : Component} {key : ChoiceKey} (hc : c ∈ f.components) (hvisible : c.visible = true)
    (hkey : f.choiceKey? c = some key) :
    (∃ choices, (f.fetched cache service).slot? key = some (.ready choices)) ↔
      ∀ message, cache.slot? key ≠ some (.failed message) := by
  cases hslot : cache.slot? key with
  | none =>
      obtain ⟨choices, hchoices⟩ := hanswers key
      rw [slot?_fetched_of_none hc hvisible hkey hslot,
        Service.Answers.slot_arrival hchoices]
      exact iff_of_true ⟨choices, rfl⟩ nofun
  | some slot =>
      rw [slot?_fetched_of_some hslot]
      cases slot with
      | loading => exact absurd hslot (hidle key)
      | ready choices => simp
      | failed message => simp

/-- With a service that answers everything, resolving leaves a visible component without its list
exactly if that list failed before. The failure may be tried again, but resolving does not: it
neither asks for the list nor touches what is kept of it. -/
theorem resolve_allArrived_iff (f : Form) (cache : ChoiceCache) (service : Service.Answers)
    (hidle : ∀ key, cache.slot? key ≠ some .loading)
    (hanswers : ∀ key, ∃ choices, service (.choices key) = .ok choices) :
    let resolved := (f.resolve cache).run service
    let after := resolved.1.2.1
    let lists := resolved.1.2.2
    (∀ c ∈ after.components, c.visible = true → ∀ key, after.choiceKey? c = some key →
      ((∃ choices, lists.slot? key = some (.ready choices)) ↔
        ∀ message, cache.slot? key ≠ some (.failed message))) ∧
    (after.AllArrived lists ↔ ¬ after.ShowsFailure cache) ∧
    ∀ key message, cache.slot? key = some (.failed message) →
      (cache.begin key).1 = true ∧ .choices key ∉ resolved.2 ∧
        lists.slot? key = some (.failed message) := by
  rw [resolve_eq]
  have hready : ∀ c ∈ (f.reconcile (f.fetched cache service)).2.components, c.visible = true →
      ∀ key, (f.reconcile (f.fetched cache service)).2.choiceKey? c = some key →
      ((∃ choices, (f.fetched cache service).slot? key = some (.ready choices)) ↔
        ∀ message, cache.slot? key ≠ some (.failed message)) := by
    intro c hc hvisible key hkey
    rw [components_reconcile] at hc
    exact ready_fetched_iff hidle hanswers hc hvisible (choiceKey?_of_reconcile hkey)
  refine ⟨hready, ?_, ?_⟩
  · constructor
    · rintro harrived ⟨c, hc, hvisible, key, message, hkey, hfailed⟩
      exact (hready c hc hvisible key hkey).mp (harrived c hc hvisible key hkey) message hfailed
    · intro hclean c hc hvisible key hkey
      refine (hready c hc hvisible key hkey).mpr ?_
      intro message hfailed
      exact hclean ⟨c, hc, hvisible, key, message, hkey, hfailed⟩
  · intro key message hfailed
    refine ⟨ChoiceCache.begin_eq_true_iff.mpr (.inr ⟨message, hfailed⟩), ?_,
      slot?_fetched_of_some hfailed service⟩
    intro hasked
    obtain ⟨other, hother, heq⟩ := List.mem_map.mp hasked
    obtain rfl := Call.choices.inj heq
    exact not_mem_missingKeys hfailed hother

def libraryForm : Form :=
  ofNode "q" {
    key := "library_node", name := "Library"
    layout := some { groups := [{ name := "g", components := [
      .plain "text_input" "service", .plain "select" "model",
      .plain "select" "collection_name"] }] } }
    (.ofList [("service", .str "s")])

def failedLists : ChoiceCache :=
  ChoiceCache.complete {} (.independent "collections") (.error "down")

def choiceService : Service.Answers
  | .choices _ => .ok [Choice.plain "a"]
  | .listing => .error .unreadable
  | .run _ => .error .unreadable
  | .save _ => .error .unreadable
  | .load _ => .error .unreadable
  | .workflows => .error .unreadable

theorem failedLists_idle (key : ChoiceKey) : failedLists.slot? key ≠ some .loading := by
  by_cases hkey : key = .independent "collections"
  · subst hkey
    decide +kernel
  · rw [failedLists, ChoiceCache.slot?_complete_of_ne _ _ hkey]
    exact nofun

theorem choiceService_answers (key : ChoiceKey) :
    ∃ choices, choiceService (.choices key) = .ok choices :=
  ⟨[Choice.plain "a"], rfl⟩

theorem libraryForm_resolve :
    (∀ key, failedLists.slot? key ≠ some .loading) ∧
    (∀ key, ∃ choices, choiceService (.choices key) = .ok choices) ∧
    let resolved := (libraryForm.resolve failedLists).run choiceService
    (∃ choices, resolved.1.2.2.slot? (.dependent "models" "s") = some (.ready choices)) ∧
    Call.choices (.independent "collections") ∉ resolved.2 ∧
    resolved.1.2.2.slot? (.independent "collections") = some (.failed "down") := by
  obtain ⟨hready, -, hfailed⟩ := resolve_allArrived_iff libraryForm failedLists choiceService
    failedLists_idle choiceService_answers
  have hneeds : ((libraryForm.resolve failedLists).run choiceService).1.2.1.choiceKey?
      (.plain "select" "model") = some (.dependent "models" "s") := by
    decide +kernel
  have hnew : failedLists.slot? (.dependent "models" "s") = none := by decide +kernel
  obtain ⟨-, hunasked, hkept⟩ := hfailed (.independent "collections") "down" (by decide +kernel)
  refine ⟨failedLists_idle, choiceService_answers, ?_, hunasked, hkept⟩
  refine (hready (.plain "select" "model") ?_ rfl _ hneeds).mpr ?_
  · rw [components_resolve]
    exact List.mem_cons_of_mem _ (List.mem_cons_self ..)
  · simp [hnew]

/-- The service answers everything, and still the collection that is shown has failed. -/
theorem libraryForm_not_allArrived :
    (∀ key, failedLists.slot? key ≠ some .loading) ∧
    (∀ key, ∃ choices, choiceService (.choices key) = .ok choices) ∧
    let resolved := (libraryForm.resolve failedLists).run choiceService
    resolved.2 = [.choices (.dependent "models" "s")] ∧
    ¬ resolved.1.2.1.AllArrived resolved.1.2.2 ∧ resolved.1.2.1.ShowsFailure resolved.1.2.2 := by
  have hshown : ((libraryForm.resolve failedLists).run choiceService).1.2.1.ShowsFailure
      ((libraryForm.resolve failedLists).run choiceService).1.2.2 := by
    refine ⟨.plain "select" "collection_name", ?_, rfl, .independent "collections", "down", ?_, ?_⟩
    · rw [components_resolve]
      exact List.mem_cons_of_mem _ (List.mem_cons_of_mem _ (List.mem_cons_self ..))
    · decide +kernel
    · decide +kernel
  refine ⟨failedLists_idle, choiceService_answers, by decide +kernel, ?_, hshown⟩
  intro harrived
  obtain ⟨c, hc, hvisible, key, message, hkey, hfailed⟩ := hshown
  obtain ⟨choices, hready⟩ := harrived c hc hvisible key hkey
  rw [hfailed] at hready
  cases hready

end Form

end NodeCanvas
