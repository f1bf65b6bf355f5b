import NodeCanvas.Form.Fetching
import NodeCanvas.Proofs.Except

namespace NodeCanvas

namespace Form

def reset (f : Form) (names : List String) : Form :=
  names.foldl (fun f name => f.setValue name (.str "")) f

theorem reconcile_eq (f : Form) (cache : ChoiceCache) :
    f.reconcile cache = (f.staleFields cache, f.reset (f.staleFields cache)) := rfl

theorem get?_reset (f : Form) (names : List String) (name : String) :
    (f.reset names).values.get? name =
      if name ∈ names then some (.str "") else f.values.get? name := by
  induction names generalizing f with
  | nil => simp [reset]
  | cons head rest ih =>
      have hrest : (f.reset (head :: rest)).values.get? name =
          ((f.setValue head (.str "")).reset rest).values.get? name := rfl
      rw [hrest, ih]
      by_cases hmem : name ∈ rest
      · rw [if_pos hmem, if_pos (List.mem_cons_of_mem _ hmem)]
      · rw [if_neg hmem]
        by_cases hhead : name = head
        · rw [hhead, get?_setValue_self, if_pos (List.mem_cons_self ..)]
        · rw [get?_setValue_of_ne f _ hhead, if_neg]
          simp [hhead, hmem]

/-- Resetting changes nothing but values, and is noted where there was anything to reset. -/
theorem reset_eq (f : Form) (names : List String) :
    f.reset names =
      { f with values := (f.reset names).values, dirty := f.dirty || !names.isEmpty } := by
  induction names generalizing f with
  | nil => simp [reset]
  | cons head rest ih =>
      have hrest : f.reset (head :: rest) = (f.setValue head (.str "")).reset rest := rfl
      rw [hrest, ih]
      simp [setValue]

theorem nodeId_reset (f : Form) (names : List String) : (f.reset names).nodeId = f.nodeId := by
  rw [reset_eq]

theorem groups_reset (f : Form) (names : List String) : (f.reset names).groups = f.groups := by
  rw [reset_eq]

theorem type_reset (f : Form) (names : List String) : (f.reset names).type = f.type := by
  rw [reset_eq]

section Reconcile

variable (f : Form) (cache : ChoiceCache)

theorem get?_reconcile (name : String) :
    (f.reconcile cache).2.values.get? name =
      if name ∈ f.staleFields cache then some (.str "") else f.values.get? name :=
  f.get?_reset _ name

theorem nodeId_reconcile : (f.reconcile cache).2.nodeId = f.nodeId := f.nodeId_reset _

theorem groups_reconcile : (f.reconcile cache).2.groups = f.groups := f.groups_reset _

theorem type_reconcile : (f.reconcile cache).2.type = f.type := f.type_reset _

theorem get?_reconcile_of_not_mem {name : String} (h : name ∉ f.staleFields cache) :
    (f.reconcile cache).2.values.get? name = f.values.get? name := by
  rw [get?_reconcile, if_neg h]

end Reconcile

theorem edit_eq_some {f after : Form} {field : String} {edit : Edit}
    (h : f.edit field edit = .ok (some after)) :
    ∃ c value, f.component? field = some c ∧
      c.stored (f.value? field) edit = .ok (some value) ∧ after = f.setValue field value := by
  unfold Form.edit at h
  split at h
  · rename_i c hc
    obtain ⟨stored, hstored, h⟩ := bind_eq_ok_iff.mp h
    obtain ⟨value, rfl, hafter⟩ := Option.map_eq_some_iff.mp (Except.ok.inj h)
    exact ⟨c, value, hc, hstored, hafter.symm⟩
  · cases h

theorem toggleGroup?_eq_some {f after : Form} {group : String} {state : Bool}
    (h : f.toggleGroup? group = some (state, after)) :
    after = { f with collapsed := f.collapsed.insert group state } := by
  unfold toggleGroup? at h
  split at h
  · obtain ⟨rfl, rfl⟩ := Prod.mk.inj (Option.some.inj h)
    rfl
  · cases h

/-- Resolving is reconciling with the lists as they are once the missing ones were asked for. -/
theorem resolve_run (f : Form) (cache : ChoiceCache) (service : Service.Answers) :
    ((f.resolve cache).run service).1 =
      let fetched := ((fetchAll cache (f.missingKeys cache)).run service).1
      ((f.reconcile fetched).1, (f.reconcile fetched).2, fetched) := by
  unfold resolve
  simp only [bind, Dialogue.run_bind]
  rfl

end Form

end NodeCanvas
