import NodeCanvas.Proofs.Form.Histories

namespace NodeCanvas

namespace Form

section Asking

variable {f : Form} {cache : ChoiceCache}

theorem slot?_fetched (f : Form) (cache : ChoiceCache) (service : Service.Answers)
    (key : ChoiceKey) :
    (f.fetched cache service).slot? key =
      if key ∈ f.missingKeys cache then some (service.arrival key).slot
      else cache.slot? key := by
  split
  · rename_i hmem
    exact ChoiceCache.slot?_completeAll_of_mem service (f.missingKeys_nodup cache) hmem
  · rename_i hmem
    exact ChoiceCache.slot?_completeAll_of_not_mem service hmem

theorem fetchAll_run_of_perm {order : List ChoiceKey} (h : order.Perm (f.missingKeys cache))
    (service : Service.Answers) :
    (fetchAll cache order).run service = (f.fetched cache service, order.map Call.choices) := by
  have hdistinct : order.Nodup := h.nodup_iff.mpr (f.missingKeys_nodup cache)
  have hnew : ∀ key ∈ order, cache.slot? key = none := fun key hkey =>
    (mem_missingKeys_iff.mp (h.mem_iff.mp hkey)).1
  have hkeys : ((order.map service.arrival).map (·.1)).Nodup := by
    rw [List.map_map]
    simpa [Function.comp_def, Service.Answers.arrival] using hdistinct
  rw [fetchAll_run hdistinct hnew, fetched,
    ChoiceCache.completeAll_perm cache (h.map service.arrival) hkeys]

theorem perform_resolve (f : Form) (lists : ChoiceCache) (service : Service.Answers) :
    f.perform lists (.resolve service) = {
      form := (f.reconcile (f.fetched lists service)).2
      lists := f.fetched lists service
      reset := (f.reconcile (f.fetched lists service)).1
      asked := (f.missingKeys lists).map Call.choices } := by
  simp only [perform, f.resolve_eq lists service]

/-- What is kept of a list is neither asked for again nor changed, whatever is done. -/
theorem perform_of_kept (f : Form) {lists : ChoiceCache} {key : ChoiceKey} {slot : ChoiceSlot}
    (h : lists.slot? key = some slot) (act : Act) :
    (f.perform lists act).lists.slot? key = some slot ∧
      .choices key ∉ (f.perform lists act).asked := by
  cases act with
  | edit field edit =>
      rcases htaken : f.edit field edit with halt | _ | after <;> simp [perform, htaken, h]
  | toggleGroup group => cases htaken : f.toggleGroup? group <;> simp [perform, htaken, h]
  | reconcile => exact ⟨h, List.not_mem_nil⟩
  | resolve service =>
      rw [perform_resolve]
      refine ⟨slot?_fetched_of_some h service, fun hasked => ?_⟩
      obtain ⟨other, hother, heq⟩ := List.mem_map.mp hasked
      obtain rfl := Call.choices.inj heq
      exact not_mem_missingKeys h hother

end Asking

end Form

structure Desk where
  forms : List Form
  lists : ChoiceCache

namespace Desk

structure Deed where
  place : Nat
  act : Form.Act

/-- The desk after a deed, and the calls that were made for it. -/
def perform (d : Desk) (deed : Deed) : Desk × List Call :=
  match d.forms[deed.place]? with
  | none => (d, [])
  | some f =>
    let turn := f.perform d.lists deed.act
    (⟨d.forms.set deed.place turn.form, turn.lists⟩, turn.asked)

def performAll (d : Desk) : List Deed → Desk × List Call
  | [] => (d, [])
  | deed :: rest =>
    let (next, asked) := d.perform deed
    let (last, later) := next.performAll rest
    (last, asked ++ later)

theorem perform_of_kept {d : Desk} {key : ChoiceKey} {slot : ChoiceSlot}
    (h : d.lists.slot? key = some slot) (deed : Deed) :
    (d.perform deed).1.lists.slot? key = some slot ∧ .choices key ∉ (d.perform deed).2 := by
  unfold perform
  split
  · exact ⟨h, List.not_mem_nil⟩
  · rename_i f _
    exact f.perform_of_kept h deed.act

theorem performAll_of_kept {d : Desk} {key : ChoiceKey} {slot : ChoiceSlot}
    (h : d.lists.slot? key = some slot) (deeds : List Deed) :
    (d.performAll deeds).1.lists.slot? key = some slot ∧
      .choices key ∉ (d.performAll deeds).2 := by
  induction deeds generalizing d with
  | nil => exact ⟨h, List.not_mem_nil⟩
  | cons deed rest ih =>
      obtain ⟨hnext, hasked⟩ := d.perform_of_kept h deed
      obtain ⟨hlast, hlater⟩ := ih hnext
      refine ⟨hlast, fun hmem => ?_⟩
      exact (List.mem_append.mp hmem).elim hasked hlater

end Desk

namespace Form

/-- Resolving asks once for each list that a visible component needs and of which nothing is kept,
in the order of the components, and for nothing else. Each answer is kept under its own key, and
all other keys are left alone; so another order of the calls leaves the same lists, and with them
the same form and the same resets. Whatever is done with any forms that share the lists, one that
has arrived is never asked for again. -/
theorem resolve_asks_missing (f : Form) (cache : ChoiceCache) (service : Service.Answers) :
    let resolved := (f.resolve cache).run service
    let lists := resolved.1.2.2
    (∃ keys : List ChoiceKey, resolved.2 = keys.map Call.choices ∧
      (∀ key, key ∈ keys ↔ cache.slot? key = none ∧
        ∃ c ∈ f.components, c.visible = true ∧ f.choiceKey? c = some key) ∧
      keys.Pairwise (fun a b => f.neededKeys.idxOf a < f.neededKeys.idxOf b) ∧
      (∀ key ∈ keys, lists.slot? key = some (service.arrival key).slot) ∧
      (∀ key ∉ keys, lists.slot? key = cache.slot? key) ∧
      ∀ order : List ChoiceKey, order.Perm keys →
        (fetchAll cache order).run service = (lists, order.map Call.choices) ∧
        f.reconcile ((fetchAll cache order).run service).1 = (resolved.1.1, resolved.1.2.1)) ∧
    ∀ (forms : List Form) (deeds : List Desk.Deed) (key : ChoiceKey) (choices : List Choice),
      cache.slot? key = some (.ready choices) →
        .choices key ∉ (Desk.performAll ⟨forms, cache⟩ deeds).2 ∧
        (Desk.performAll ⟨forms, cache⟩ deeds).1.lists.slot? key = some (.ready choices) := by
  rw [resolve_eq]
  refine ⟨⟨f.missingKeys cache, rfl, ?_, f.missingKeys_pairwise cache, ?_, ?_, ?_⟩, ?_⟩
  · exact fun key => mem_missingKeys_iff
  · intro key hkey
    rw [slot?_fetched, if_pos hkey]
  · intro key hkey
    rw [slot?_fetched, if_neg hkey]
  · intro order horder
    rw [fetchAll_run_of_perm horder]
    exact ⟨rfl, rfl⟩
  · intro forms deeds key choices hready
    exact (Desk.performAll_of_kept (d := ⟨forms, cache⟩) hready deeds).symm

end Form

end NodeCanvas
