import Mathlib.Data.List.Basic

namespace NodeCanvas

variable {ε α β : Type} {x : Except ε α} {step : α → Except ε β} {items : List α}

theorem bind_eq_ok_iff {next : α → Except ε β} {b : β} :
    x >>= next = .ok b ↔ ∃ a, x = .ok a ∧ next a = .ok b := by
  cases x <;> simp [bind, Except.bind]

theorem exists_of_isOk (h : x.isOk = true) : ∃ a, x = .ok a := by
  cases x with
  | error e => cases h
  | ok a => exact ⟨a, rfl⟩

theorem isOk_bind_pure {finish : α → β} : (do return finish (← x) : Except ε β).isOk = x.isOk := by
  cases x <;> rfl

theorem isOk_mapM_iff :
    (items.mapM step).isOk = true ↔ ∀ a ∈ items, (step a).isOk = true := by
  induction items with
  | nil => simp [pure, Except.pure, Except.isOk, Except.toBool]
  | cons head rest ih =>
      rw [List.forall_mem_cons, ← ih, List.mapM_cons]
      cases step head <;> cases rest.mapM step <;>
        simp [bind, Except.bind, pure, Except.pure, Except.isOk, Except.toBool]

theorem exists_mem_of_mapM {out : List β} (h : items.mapM step = .ok out) :
    ∀ a ∈ items, ∃ b ∈ out, step a = .ok b := by
  induction items generalizing out with
  | nil => nofun
  | cons head rest ih =>
      rw [List.mapM_cons] at h
      obtain ⟨b, hb, h⟩ := bind_eq_ok_iff.mp h
      obtain ⟨others, hothers, h⟩ := bind_eq_ok_iff.mp h
      cases h
      intro a ha
      rcases List.mem_cons.mp ha with rfl | ha
      · exact ⟨b, List.mem_cons_self .., hb⟩
      · obtain ⟨b', hb', hstep⟩ := ih hothers a ha
        exact ⟨b', List.mem_cons_of_mem _ hb', hstep⟩

end NodeCanvas
