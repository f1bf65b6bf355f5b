import Mathlib.Data.List.Nodup
import NodeCanvas.Dict

namespace NodeCanvas

/-- The key of the first entry is that of no other one. -/
theorem Ascending.find?_tail {κ α : Type} [OrderedKey κ] {entry : κ × α} {rest : List (κ × α)}
    (h : Ascending (entry :: rest)) : Ascending.find? entry.1 rest = none := by
  apply Ascending.find?_eq_none
  intro other hmem heq
  have hlt := (List.pairwise_cons.mp h).1 other hmem
  rw [heq] at hlt
  cases hlt

namespace Dict

variable {κ α : Type} [OrderedKey κ]

theorem keys_nodup (d : Dict κ α) : d.keys.Nodup := by
  refine List.pairwise_map.mpr (d.ascending.imp ?_)
  intro a b hlt heq
  rw [heq] at hlt
  simp at hlt

theorem mem_keys_of_get? {d : Dict κ α} {key : κ} {value : α} (h : d.get? key = some value) :
    key ∈ d.keys := by
  rw [mem_keys_iff, h]
  rfl

theorem insert_insert (d : Dict κ α) (key : κ) (old value : α) :
    (d.insert key old).insert key value = d.insert key value := by
  apply ext_get?
  intro query
  rw [get?_insert, get?_insert, get?_insert]
  split <;> rfl

/-- With distinct keys no entry is written over, so each of them is found again. -/
theorem get?_insertAll_of_mem (d : Dict κ α) {entries : List (κ × α)} {key : κ} {value : α}
    (hkeys : (entries.map (·.1)).Nodup) (hmem : (key, value) ∈ entries) :
    (d.insertAll entries).get? key = some value := by
  induction entries generalizing d with
  | nil => simp at hmem
  | cons entry rest ih =>
      rw [List.map_cons, List.nodup_cons] at hkeys
      rw [insertAll_cons]
      rcases List.mem_cons.mp hmem with rfl | hmem
      · rw [get?_insertAll_of_not_mem, get?_insert_self]
        intro other hother heq
        exact hkeys.1 (List.mem_map.mpr ⟨other, hother, heq⟩)
      · exact ih _ hkeys.2 hmem

theorem get?_ofList_of_mem {entries : List (κ × α)} {key : κ} {value : α}
    (hkeys : (entries.map (·.1)).Nodup) (hmem : (key, value) ∈ entries) :
    (ofList entries).get? key = some value :=
  get?_insertAll_of_mem _ hkeys hmem

theorem ofList_entries (d : Dict κ α) : ofList d.entries = d := by
  apply ext_get?
  intro key
  cases hvalue : d.get? key with
  | some value => exact get?_ofList_of_mem d.keys_nodup (get?_eq_some_iff.mp hvalue)
  | none =>
      refine get?_insertAll_of_not_mem empty d.entries fun entry hentry heq => ?_
      rw [← heq, get?_eq_some_iff.mpr hentry] at hvalue
      cases hvalue

theorem insertAll_perm (d : Dict κ α) {entries other : List (κ × α)} (h : entries.Perm other)
    (hkeys : (entries.map (·.1)).Nodup) : d.insertAll entries = d.insertAll other := by
  have hother : (other.map (·.1)).Nodup := (h.map _).nodup_iff.mp hkeys
  apply ext_get?
  intro key
  by_cases hkey : key ∈ entries.map (·.1)
  · obtain ⟨⟨_, value⟩, hmem, rfl⟩ := List.mem_map.mp hkey
    rw [get?_insertAll_of_mem d hkeys hmem, get?_insertAll_of_mem d hother (h.mem_iff.mp hmem)]
  · have hnone : ∀ entry ∈ entries, entry.1 ≠ key := by
      rintro entry hentry rfl
      exact hkey (List.mem_map.mpr ⟨entry, hentry, rfl⟩)
    rw [get?_insertAll_of_not_mem d entries hnone, get?_insertAll_of_not_mem d other]
    exact fun entry hentry => hnone entry (h.mem_iff.mpr hentry)

theorem isEmpty_of_get? {d : Dict κ α} {key : κ} {value : α} (h : d.get? key = some value) :
    d.isEmpty = false :=
  List.isEmpty_eq_false_iff_exists_mem.mpr ⟨(key, value), get?_eq_some_iff.mp h⟩

theorem isEmpty_insertAll {d : Dict κ α} (h : d.isEmpty = false) (entries : List (κ × α)) :
    (d.insertAll entries).isEmpty = false := by
  induction entries generalizing d with
  | nil => exact h
  | cons entry rest ih =>
      rw [insertAll_cons]
      exact ih (isEmpty_of_get? (get?_insert_self ..))

theorem isEmpty_ofList {entries : List (κ × α)} (h : entries ≠ []) :
    (ofList entries).isEmpty = false := by
  cases entries with
  | nil => exact absurd rfl h
  | cons entry rest =>
      rw [ofList, insertAll_cons]
      exact isEmpty_insertAll (isEmpty_of_get? (get?_insert_self ..)) rest

/-- Entries taken up one after the other, each in a way that touches its own key only. -/
theorem get?_foldl {β : Type} (step : Dict κ β → κ × α → Dict κ β)
    (taken : Option β → α → Option β)
    (hself : ∀ found entry, (step found entry).get? entry.1 = taken (found.get? entry.1) entry.2)
    (hother : ∀ found entry key, key ≠ entry.1 → (step found entry).get? key = found.get? key)
    (d : Dict κ α) (seen : Dict κ β) (key : κ) :
    (d.entries.foldl step seen).get? key =
      (d.get? key).elim (seen.get? key) (taken (seen.get? key)) := by
  obtain ⟨entries, ascending⟩ := d
  simp only [get?]
  induction entries generalizing seen with
  | nil => rfl
  | cons entry rest ih =>
      rw [List.foldl_cons, ih _ (List.pairwise_cons.mp ascending).2, Ascending.find?]
      by_cases hkey : key = entry.1
      · subst hkey
        have htaken := hself seen entry
        simp only [get?] at htaken
        simp [Ascending.find?_tail ascending, htaken]
      · have hne : compare key entry.1 ≠ .eq := fun heq => hkey (Std.LawfulEqCmp.eq_of_compare heq)
        have hkept := hother seen entry key hkey
        simp only [get?] at hkept
        rw [if_neg hne, hkept]

/-- The same look-ups outside some keys. -/
def AgreeOutside (keys : List κ) (d e : Dict κ α) : Prop :=
  ∀ key ∉ keys, e.get? key = d.get? key

theorem AgreeOutside.refl (keys : List κ) (d : Dict κ α) : AgreeOutside keys d d :=
  fun _ _ => rfl

theorem AgreeOutside.trans {keys more : List κ} {d e f : Dict κ α} (h : AgreeOutside keys d e)
    (hmore : AgreeOutside more e f) : AgreeOutside (keys ++ more) d f := by
  intro key hkey
  rw [List.mem_append, not_or] at hkey
  exact (hmore key hkey.2).trans (h key hkey.1)

theorem agreeOutside_update (d values : Dict κ α) :
    AgreeOutside values.keys d (d.update values) := by
  intro key hkey
  refine get?_insertAll_of_not_mem _ _ fun entry hentry heq => hkey ?_
  exact List.mem_map.mpr ⟨entry, hentry, heq⟩

/-- Every value of the dictionary has a property. -/
def All (P : α → Prop) (d : Dict κ α) : Prop := ∀ entry ∈ d.entries, P entry.2

section All

variable {P : α → Prop} {d : Dict κ α}

theorem All.empty : (empty : Dict κ α).All P := by simp [All, Dict.empty]

theorem All.of_get? (h : d.All P) {key : κ} {value : α} (hvalue : d.get? key = some value) :
    P value :=
  h (key, value) (get?_eq_some_iff.mp hvalue)

theorem All.insert (h : d.All P) (key : κ) {value : α} (hvalue : P value) :
    (d.insert key value).All P := by
  intro entry hentry
  rcases Ascending.mem_put hentry with rfl | hentry
  · exact hvalue
  · exact h entry hentry

theorem All.erase (h : d.All P) (key : κ) : (d.erase key).All P :=
  fun entry hentry => h entry (List.mem_of_mem_filter hentry)

theorem All.insertAll (h : d.All P) {entries : List (κ × α)}
    (hentries : ∀ entry ∈ entries, P entry.2) : (d.insertAll entries).All P := by
  induction entries generalizing d with
  | nil => exact h
  | cons entry rest ih =>
      rw [List.forall_mem_cons] at hentries
      exact ih (h.insert entry.1 hentries.1) hentries.2

theorem All.ofList {entries : List (κ × α)} (h : ∀ entry ∈ entries, P entry.2) :
    (ofList entries).All P :=
  All.empty.insertAll h

theorem All.update (h : d.All P) {e : Dict κ α} (he : e.All P) : (d.update e).All P :=
  h.insertAll he

end All

end Dict

end NodeCanvas
