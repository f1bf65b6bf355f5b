import NodeCanvas.Proofs.Dict
import NodeCanvas.Proofs.Form.Staleness

/-!
Lists of choices that arrive one after the other, the form reconciled after each of them. Where no
field that selects choices can itself be reset, the form ends as if all lists had arrived at once,
so that their order cannot be seen. In every other layout it can: a field that is reset no longer
selects the list by which a third field would have been reset.
-/
namespace NodeCanvas

/-- A list of choices under its key, or the reason why it did not come. -/
abbrev Arrival := ChoiceKey × Except String (List Choice)

namespace Arrival

def slot (a : Arrival) : ChoiceSlot :=
  match a.2 with
  | .ok choices => .ready choices
  | .error message => .failed message

end Arrival

namespace ChoiceCache

def completeAll (c : ChoiceCache) (arrivals : List Arrival) : ChoiceCache :=
  arrivals.foldl (fun c a => c.complete a.1 a.2) c

theorem completeAll_eq (c : ChoiceCache) (arrivals : List Arrival) :
    c.completeAll arrivals =
      { slots := c.slots.insertAll (arrivals.map fun a => (a.1, a.slot)) } := by
  induction arrivals generalizing c with
  | nil => rfl
  | cons a rest ih => exact ih (c.complete a.1 a.2)

theorem completeAll_perm (c : ChoiceCache) {arrivals other : List Arrival}
    (h : arrivals.Perm other) (hkeys : (arrivals.map (·.1)).Nodup) :
    c.completeAll arrivals = c.completeAll other := by
  have hentries : ((arrivals.map fun a => (a.1, a.slot)).map (·.1)).Nodup := by
    rw [List.map_map]
    exact hkeys
  rw [completeAll_eq, completeAll_eq, Dict.insertAll_perm _ (h.map _) hentries]

theorem choices?_complete_of_ne (c : ChoiceCache) {key query : ChoiceKey}
    (answer : Except String (List Choice)) (h : query ≠ key) :
    (c.complete key answer).choices? query = c.choices? query := by
  rw [choices?, choices?, slot?_complete_of_ne c answer h]

theorem choices?_complete_self (c : ChoiceCache) (key : ChoiceKey) (choices : List Choice) :
    (c.complete key (.ok choices)).choices? key = some choices := by
  rw [choices?, slot?_complete_self]

theorem choices?_completeAll_of_not_mem (c : ChoiceCache) {arrivals : List Arrival}
    {key : ChoiceKey} (h : key ∉ arrivals.map (·.1)) :
    (c.completeAll arrivals).choices? key = c.choices? key := by
  induction arrivals generalizing c with
  | nil => rfl
  | cons a rest ih =>
      rw [List.map_cons, List.mem_cons, not_or] at h
      have hrest := ih (c.complete a.1 a.2) h.2
      rw [choices?_complete_of_ne c a.2 h.1] at hrest
      exact hrest

end ChoiceCache

namespace Form

def receive (f : Form) (cache : ChoiceCache) : List Arrival → Form × ChoiceCache
  | [] => (f, cache)
  | a :: rest =>
    let cache := cache.complete a.1 a.2
    (f.reconcile cache).2.receive cache rest

/-- Some field that selects choices of another one can be reset by a list which is not the one
that it selects. -/
def Chained (f : Form) : Prop :=
  ∃ b ∈ f.components, ∃ c ∈ f.components, ∃ family field other,
    b.DependsOn family field ∧ c.DependsOn other b.name ∧ c.name ≠ b.name ∧
    ¬ (field = b.name ∧ family = other)

section Batch

variable {f : Form} {cache more : ChoiceCache}

/-- Lists that stay as they are go on to reject. -/
theorem staleFields_mono
    (hmore : ∀ key choices, cache.choices? key = some choices → more.choices? key = some choices)
    {name : String} (h : name ∈ f.staleFields cache) : name ∈ f.staleFields more := by
  obtain ⟨text, htext, c, hc, hname, hrejects⟩ := mem_staleFields_iff.mp h
  obtain ⟨family, field, selector, choices, hdepends, hselector, harrived, hnone⟩ := hrejects
  exact mem_staleFields_iff.mpr ⟨text, htext, c, hc, hname, family, field, selector, choices,
    hdepends, hselector, hmore _ _ harrived, hnone⟩

/-- Unless the form is chained, a field that reconciling leaves alone is not saved from a later
list by what was reset. -/
theorem mem_staleFields_reconcile (hf : ¬ f.Chained)
    (hmore : ∀ key choices, cache.choices? key = some choices → more.choices? key = some choices)
    {name : String} (h : name ∈ f.staleFields more) (hkept : name ∉ f.staleFields cache) :
    name ∈ (f.reconcile cache).2.staleFields more := by
  obtain ⟨text, htext, c, hc, hname, hrejects⟩ := mem_staleFields_iff.mp h
  obtain ⟨family, field, selector, choices, hdepends, hselector, harrived, hnone⟩ := hrejects
  have hfield : field ∉ f.staleFields cache := by
    intro hstale
    obtain ⟨old, hold, b, hb, hbname, hreset⟩ := mem_staleFields_iff.mp hstale
    obtain ⟨resetFamily, resetField, resetSelector, offered, hbdepends, hresetSelector,
      hoffered, hresetNone⟩ := hreset
    subst hbname
    apply hf
    refine ⟨b, hb, c, hc, resetFamily, resetField, family, hbdepends, hdepends, ?_, ?_⟩
    · intro hsame
      rw [← hname, hsame] at hkept
      exact hkept hstale
    · rintro ⟨rfl, rfl⟩
      -- The list that resets the field is the one that it selects, so it has arrived already.
      rw [hselector] at hresetSelector
      obtain rfl := Option.some.inj hresetSelector
      have hsame := hmore _ _ hoffered
      rw [harrived] at hsame
      obtain rfl := Option.some.inj hsame
      exact hkept (mem_staleFields_iff.mpr ⟨text, htext, c, hc, hname, resetFamily, b.name,
        selector, choices, hdepends, hselector, hoffered, hnone⟩)
  refine mem_staleFields_iff.mpr ⟨text, ?_, c, ?_, hname, family, field, selector, choices,
    hdepends, ?_, harrived, hnone⟩
  · rw [text?_reconcile, if_neg hkept, htext]
  · rw [components_reconcile]
    exact hc
  · rw [text?_reconcile, if_neg hfield, hselector]

theorem reconcile_reconcile (hf : ¬ f.Chained)
    (hmore : ∀ key choices, cache.choices? key = some choices → more.choices? key = some choices) :
    ((f.reconcile cache).2.reconcile more).2.values = (f.reconcile more).2.values := by
  apply Dict.ext_get?
  intro name
  rw [get?_reconcile, get?_reconcile, get?_reconcile]
  by_cases hstale : name ∈ f.staleFields more
  · by_cases hkept : name ∈ f.staleFields cache
    · rw [if_pos hkept, if_pos hstale, ite_self]
    · rw [if_pos (mem_staleFields_reconcile hf hmore hstale hkept), if_pos hstale]
  · have hkept : name ∉ f.staleFields cache := fun h => hstale (staleFields_mono hmore h)
    have hafter : name ∉ (f.reconcile cache).2.staleFields more :=
      fun h => hstale (mem_staleFields_of_reconcile h)
    rw [if_neg hafter, if_neg hkept, if_neg hstale]

theorem chained_reconcile (f : Form) (cache : ChoiceCache) :
    (f.reconcile cache).2.Chained ↔ f.Chained := by
  rw [Chained, Chained, components_reconcile]

theorem values_receive (hf : ¬ f.Chained) {arrivals : List Arrival} (hne : arrivals ≠ [])
    (hkeys : (arrivals.map (·.1)).Nodup) (hawaited : ∀ a ∈ arrivals, cache.choices? a.1 = none) :
    (f.receive cache arrivals).1.values =
      (f.reconcile (cache.completeAll arrivals)).2.values := by
  induction arrivals generalizing f cache with
  | nil => exact absurd rfl hne
  | cons a rest ih =>
      rw [List.map_cons, List.nodup_cons] at hkeys
      let early := cache.complete a.1 a.2
      have hhere : (f.receive cache (a :: rest)).1.values =
          ((f.reconcile early).2.receive early rest).1.values := rfl
      have hrest : ∀ other ∈ rest, early.choices? other.1 = none := by
        intro other hother
        rw [ChoiceCache.choices?_complete_of_ne]
        · exact hawaited other (List.mem_cons_of_mem _ hother)
        · rintro heq
          exact hkeys.1 (List.mem_map.mpr ⟨other, hother, heq⟩)
      rw [hhere]
      cases hcases : rest with
      | nil => rfl
      | cons next later =>
          rw [← hcases]
          rw [ih (mt (chained_reconcile f _).mp hf) (by simp [hcases]) hkeys.2 hrest]
          refine reconcile_reconcile hf ?_
          intro key choices hready
          have hnew : key ∉ rest.map (·.1) := by
            intro hmem
            obtain ⟨other, hother, rfl⟩ := List.mem_map.mp hmem
            rw [hrest other hother] at hready
            cases hready
          exact (ChoiceCache.choices?_completeAll_of_not_mem _ hnew).trans hready

end Batch

end Form

end NodeCanvas
