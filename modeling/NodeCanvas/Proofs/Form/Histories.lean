import Mathlib.Data.List.Infix
import NodeCanvas.Proofs.Form.Resolving

namespace NodeCanvas.Form

inductive Act where
  | edit (field : String) (edit : Edit)
  | toggleGroup (group : String)
  | reconcile
  | resolve (service : Service.Answers)

structure Turn where
  form : Form
  lists : ChoiceCache
  /-- The form took what was done with it. -/
  accepted : Bool := true
  reset : List String := []
  asked : List Call := []

/-- A form that refuses an act stays as it is, and so does one that stops at it. -/
def perform (f : Form) (lists : ChoiceCache) : Act → Turn
  | .edit field edit =>
    match f.edit field edit with
    | .ok (some after) => { form := after, lists }
    | .ok none | .error _ => { form := f, lists, accepted := false }
  | .toggleGroup group =>
    match f.toggleGroup? group with
    | some (_, after) => { form := after, lists }
    | none => { form := f, lists, accepted := false }
  | .reconcile =>
    let (reset, after) := f.reconcile lists
    { form := after, lists, reset }
  | .resolve service =>
    let ((reset, after, lists), asked) := (f.resolve lists).run service
    { form := after, lists, reset, asked }

/-- An act tells of a field: as the one that an edit was taken for, or as one that was reset. -/
def TellsOf (f : Form) (lists : ChoiceCache) (act : Act) (name : String) : Prop :=
  (∃ edit, act = .edit name edit ∧ (f.perform lists act).accepted = true) ∨
    name ∈ (f.perform lists act).reset

/-- One form becomes another by writing the fields of some names. -/
structure Writes (f after : Form) (names : String → Prop) : Prop where
  kept : ∀ name, ¬ names name → after.values.get? name = f.values.get? name
  held : ∀ name, names name → (after.values.get? name).isSome
  noted : after.dirty = true ↔ f.dirty = true ∨ ∃ name, names name

namespace Writes

theorem of_same {f after : Form} (hvalues : after.values = f.values)
    (hdirty : after.dirty = f.dirty) {names : String → Prop} (hnone : ∀ name, ¬ names name) :
    Writes f after names where
  kept := fun _ _ => by rw [hvalues]
  held := fun name hname => absurd hname (hnone name)
  noted := by simp [hdirty, hnone]

theorem setValue (f : Form) (field : String) (value : Json) :
    Writes f (f.setValue field value) (· = field) where
  kept := fun _ hother => get?_setValue_of_ne f value hother
  held := by
    rintro _ rfl
    rw [get?_setValue_self]
    rfl
  noted := by simp [Form.setValue]

theorem reset (f : Form) (fields : List String) : Writes f (f.reset fields) (· ∈ fields) where
  kept := fun name hother => by rw [get?_reset, if_neg hother]
  held := fun name hmem => by
    rw [get?_reset, if_pos hmem]
    rfl
  noted := by
    rw [reset_eq]
    simp [List.eq_nil_iff_forall_not_mem]

theorem congr {f after : Form} {names others : String → Prop} (h : Writes f after names)
    (hsame : ∀ name, names name ↔ others name) : Writes f after others := by
  obtain rfl : names = others := funext fun name => propext (hsame name)
  exact h

/-- What was written stays written. -/
theorem trans {f between after : Form} {names others : String → Prop}
    (h : Writes f between names) (hlater : Writes between after others) :
    Writes f after fun name => names name ∨ others name where
  kept := fun name hnone => by
    rw [not_or] at hnone
    rw [hlater.kept name hnone.2, h.kept name hnone.1]
  held := fun name hname => by
    by_cases hother : others name
    · exact hlater.held name hother
    · rw [hlater.kept name hother]
      exact h.held name (hname.resolve_right hother)
  noted := by
    rw [hlater.noted, h.noted, or_assoc, exists_or]

theorem isSome {f after : Form} {names : String → Prop} (h : Writes f after names)
    {name : String} (hname : (f.values.get? name).isSome) :
    (after.values.get? name).isSome := by
  by_cases hwritten : names name
  · exact h.held name hwritten
  · rwa [h.kept name hwritten]

end Writes

/-- An act writes the fields that it tells of. -/
theorem perform_writes (f : Form) (lists : ChoiceCache) (act : Act) :
    Writes f (f.perform lists act).form (f.TellsOf lists act) := by
  cases act with
  | edit field edit =>
      rcases htaken : f.edit field edit with halt | _ | after
      · refine .of_same ?_ ?_ ?_ <;> simp [perform, TellsOf, htaken]
      · refine .of_same ?_ ?_ ?_ <;> simp [perform, TellsOf, htaken]
      · obtain ⟨_, value, -, -, rfl⟩ := edit_eq_some htaken
        have hform : (f.perform lists (.edit field edit)).form = f.setValue field value := by
          simp only [perform, htaken]
        rw [hform]
        refine (Writes.setValue f field value).congr fun name => ?_
        simp [TellsOf, perform, htaken, eq_comm]
  | toggleGroup group =>
      cases htaken : f.toggleGroup? group with
      | none => refine .of_same ?_ ?_ ?_ <;> simp [perform, TellsOf, htaken]
      | some toggled =>
          obtain ⟨state, after⟩ := toggled
          obtain rfl := toggleGroup?_eq_some htaken
          refine .of_same ?_ ?_ ?_ <;> simp [perform, TellsOf, htaken]
  | reconcile =>
      refine (Writes.reset f (f.staleFields lists)).congr fun name => ?_
      simp [TellsOf, perform, reconcile_eq]
  | resolve service =>
      have hresolve := f.resolve_eq lists service
      have hform : (f.perform lists (.resolve service)).form =
          f.reset (f.staleFields (f.fetched lists service)) := by
        simp only [perform, hresolve, reconcile_eq]
      rw [hform]
      refine (Writes.reset f (f.staleFields (f.fetched lists service))).congr fun name => ?_
      simp [TellsOf, perform, hresolve, reconcile_eq]

theorem perform_of_refused {f : Form} {lists : ChoiceCache} {act : Act}
    (h : (f.perform lists act).accepted = false) :
    (f.perform lists act).form = f ∧ (f.perform lists act).lists = lists := by
  cases act with
  | edit field edit =>
      rcases htaken : f.edit field edit with halt | _ | after <;> simp_all [perform]
  | toggleGroup group => cases htaken : f.toggleGroup? group <;> simp_all [perform]
  | reconcile => cases h
  | resolve service => cases h

def after (f : Form) (history : List (ChoiceCache × Act)) : Form :=
  history.foldl (fun f step => (f.perform step.1 step.2).form) f

def ToldOf (f : Form) (history : List (ChoiceCache × Act)) (name : String) : Prop :=
  ∃ early lists act late, history = early ++ (lists, act) :: late ∧
    (f.after early).TellsOf lists act name

theorem after_append (f : Form) (history : List (ChoiceCache × Act)) (lists : ChoiceCache)
    (act : Act) :
    f.after (history ++ [(lists, act)]) = ((f.after history).perform lists act).form := by
  rw [after, List.foldl_append]
  rfl

theorem toldOf_append {f : Form} {history : List (ChoiceCache × Act)} {lists : ChoiceCache}
    {act : Act} {name : String} :
    f.ToldOf (history ++ [(lists, act)]) name ↔
      f.ToldOf history name ∨ (f.after history).TellsOf lists act name := by
  constructor
  · rintro ⟨early, found, done, late, hsplit, htells⟩
    rcases List.eq_nil_or_concat late with rfl | ⟨later, last, rfl⟩
    · obtain ⟨rfl, hlast⟩ := List.append_inj' hsplit rfl
      obtain ⟨rfl, rfl⟩ := Prod.mk.inj (List.cons.inj hlast).1
      exact .inr htells
    · rw [List.concat_eq_append, ← List.cons_append, ← List.append_assoc] at hsplit
      obtain ⟨rfl, -⟩ := List.append_inj' hsplit rfl
      exact .inl ⟨early, found, done, later, rfl, htells⟩
  · rintro (⟨early, found, done, late, rfl, htells⟩ | htells)
    · exact ⟨early, found, done, late ++ [(lists, act)], by simp, htells⟩
    · exact ⟨history, lists, act, [], rfl, htells⟩

theorem after_writes (f : Form) (history : List (ChoiceCache × Act)) :
    Writes f (f.after history) (f.ToldOf history) := by
  induction history using List.reverseRecOn with
  | nil => exact .of_same rfl rfl fun name => by simp [ToldOf]
  | append_singleton history step ih =>
      obtain ⟨lists, act⟩ := step
      rw [after_append]
      exact (ih.trans (perform_writes _ lists act)).congr fun name => toldOf_append.symm

/-- Whatever is done with a form, in any order: the values that it was opened with are all there,
only fields that an edit or a reset told of have other values, and the form is dirty exactly if
there are such fields. What it refuses leaves no trace. -/
theorem history_keeps_values (nodeId : String) (type : NodeType) (values : Parameters)
    (history : List (ChoiceCache × Act)) :
    let opened := ofNode nodeId type values
    let f := opened.after history
    (∀ key ∈ values.keys, key ∈ f.values.keys) ∧
    (∀ key, f.values.get? key ≠ values.get? key → opened.ToldOf history key) ∧
    (∀ lists act, (f.perform lists act).accepted = false →
      (f.perform lists act).form = f ∧ (f.perform lists act).lists = lists) ∧
    (f.dirty = true ↔ ∃ key, opened.ToldOf history key) ∧
    (f.dirty = false → f.values = values) := by
  intro opened f
  have hwrites : Writes opened f (opened.ToldOf history) := opened.after_writes history
  have hdirty : f.dirty = true ↔ ∃ key, opened.ToldOf history key := by
    rw [hwrites.noted]
    simp [opened, ofNode]
  refine ⟨?_, ?_, ?_, hdirty, ?_⟩
  · intro key hkey
    rw [Dict.mem_keys_iff] at hkey ⊢
    exact hwrites.isSome hkey
  · intro key hchanged
    by_contra hnone
    exact hchanged (hwrites.kept key hnone)
  · intro lists act hrefused
    exact perform_of_refused hrefused
  · intro hclean
    refine Dict.ext_get? fun key => hwrites.kept key fun htold => ?_
    rw [hdirty.mpr ⟨key, htold⟩] at hclean
    cases hclean

end NodeCanvas.Form
