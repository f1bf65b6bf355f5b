import Mathlib.Data.List.Induction
import NodeCanvas.Catalog
import NodeCanvas.Proofs.Dict

namespace NodeCanvas

theorem eraseDups_of_nodup {α : Type} [BEq α] [LawfulBEq α] {items : List α} (h : items.Nodup) :
    items.eraseDups = items := by
  induction items with
  | nil => rfl
  | cons item rest ih =>
      rw [List.nodup_cons] at h
      have hrest : rest.filter (fun other => !other == item) = rest := by
        apply List.filter_eq_self.mpr
        intro other hother
        have hne : other ≠ item := by
          rintro rfl
          exact h.1 hother
        simpa using hne
      rw [List.eraseDups_cons, hrest, ih h.2]

theorem eraseDups_concat_of_mem {α : Type} [BEq α] [LawfulBEq α] {items : List α} {item : α}
    (h : item ∈ items) : (items ++ [item]).eraseDups = items.eraseDups := by
  simp [List.eraseDups_append, List.removeAll, h]

theorem eraseDups_concat_of_not_mem {α : Type} [BEq α] [LawfulBEq α] {items : List α} {item : α}
    (h : item ∉ items) : (items ++ [item]).eraseDups = items.eraseDups ++ [item] := by
  simp [List.eraseDups_append, List.removeAll, h, List.eraseDups_cons]

namespace Catalog

/-- The keys of the types are shown, each of them once. -/
structure Coherent (c : Catalog) : Prop where
  distinct : c.order.Nodup
  shown_iff : ∀ key, key ∈ c.order ↔ (c.get? key).isSome

def insertEntries (c : Catalog) (entries : List (String × NodeType)) : Catalog :=
  entries.foldl (fun c entry => c.insertAt entry.1 entry.2) c

def insertAll (c : Catalog) (types : List NodeType) : Catalog := types.foldl insert c

theorem insertAll_eq (c : Catalog) (types : List NodeType) :
    c.insertAll types = c.insertEntries (types.map fun t => (t.key, t)) := by
  rw [insertEntries, List.foldl_map]
  rfl

theorem types_insertEntries (c : Catalog) (entries : List (String × NodeType)) :
    (c.insertEntries entries).types = c.types.insertAll entries := by
  induction entries generalizing c with
  | nil => rfl
  | cons entry rest ih => exact ih (c.insertAt entry.1 entry.2)

section Insert

variable {c : Catalog} {key : String}

theorem order_insertAt_of_mem (h : c.Coherent) (hkey : key ∈ c.order) (t : NodeType) :
    (c.insertAt key t).order = c.order :=
  if_pos ((h.shown_iff key).mp hkey)

theorem order_insertAt_of_not_mem (h : c.Coherent) (hkey : key ∉ c.order) (t : NodeType) :
    (c.insertAt key t).order = c.order ++ [key] :=
  if_neg fun hcontains => hkey ((h.shown_iff key).mpr hcontains)

theorem coherent_empty : Coherent {} where
  distinct := List.nodup_nil
  shown_iff := by simp [get?]

theorem Coherent.insertAt (h : c.Coherent) (key : String) (t : NodeType) :
    (c.insertAt key t).Coherent := by
  by_cases hkey : key ∈ c.order
  · have horder := order_insertAt_of_mem h hkey t
    refine ⟨by rw [horder]; exact h.distinct, fun query => ?_⟩
    rw [horder]
    by_cases hquery : query = key
    · subst hquery
      simp [get?_insertAt_self, hkey]
    · rw [get?_insertAt_of_ne _ _ hquery, h.shown_iff]
  · have horder := order_insertAt_of_not_mem h hkey t
    constructor
    · rw [horder]
      exact h.distinct.append (List.nodup_singleton _) (by simpa using hkey)
    · intro query
      rw [horder, List.mem_append, List.mem_singleton]
      by_cases hquery : query = key
      · subst hquery
        simp [get?_insertAt_self]
      · rw [get?_insertAt_of_ne _ _ hquery, h.shown_iff, or_iff_left hquery]

theorem Coherent.insertEntries (h : c.Coherent) (entries : List (String × NodeType)) :
    (c.insertEntries entries).Coherent :=
  List.foldlRecOn _ _ h fun _ hc entry _ => hc.insertAt entry.1 entry.2

/-- New keys come after the old ones, in the order in which they are put for the first time. -/
theorem order_insertEntries (h : c.Coherent) (entries : List (String × NodeType)) :
    (c.insertEntries entries).order =
      c.order ++ ((entries.map (·.1)).filter fun key => key ∉ c.order).eraseDups := by
  induction entries generalizing c with
  | nil => simp [Catalog.insertEntries]
  | cons entry rest ih =>
      have hrest := ih (h.insertAt entry.1 entry.2)
      rw [show c.insertEntries (entry :: rest) =
        (c.insertAt entry.1 entry.2).insertEntries rest from rfl, hrest, List.map_cons]
      by_cases hkey : entry.1 ∈ c.order
      · rw [order_insertAt_of_mem h hkey, List.filter_cons_of_neg (by simpa using hkey)]
      · rw [order_insertAt_of_not_mem h hkey, List.filter_cons_of_pos (by simpa using hkey),
          List.eraseDups_cons, List.filter_filter, List.append_assoc, List.singleton_append]
        congr 3
        apply List.filter_congr
        intro other _
        simp [and_comm, not_or, Bool.beq_eq_decide_eq]

theorem Coherent.size_eq (h : c.Coherent) : c.size = c.order.length := by
  have hperm : c.order.Perm c.types.keys := by
    apply (List.perm_ext_iff_of_nodup h.distinct c.types.keys_nodup).mpr
    intro key
    rw [h.shown_iff, Dict.mem_keys_iff]
    rfl
  rw [hperm.length_eq, size, Dict.size, Dict.keys, List.length_map]

/-- No key that is shown lacks its type. -/
theorem Coherent.map_shown (h : c.Coherent) : c.shown.map some = c.order.map c.get? := by
  have hsome : ∀ key ∈ c.order, (c.get? key).isSome := fun key => (h.shown_iff key).mp
  rw [shown]
  generalize c.order = order at hsome
  induction order with
  | nil => rfl
  | cons key rest ih =>
      rw [List.forall_mem_cons] at hsome
      obtain ⟨t, ht⟩ := Option.isSome_iff_exists.mp hsome.1
      rw [List.filterMap_cons_some ht, List.map_cons, List.map_cons, ih hsome.2, ht]

end Insert

section Listing

def takeUp (state : Catalog × Dict String NodeType) (key : String) :
    Catalog × Dict String NodeType :=
  match state.2.get? key with
  | some t => (state.1.insertAt key t, state.2.erase key)
  | none => state

theorem ofListing_eq (l : Listing) :
    ofListing l =
      let taken := l.order.foldl takeUp ({}, l.types)
      taken.1.insertEntries taken.2.entries := rfl

/-- What some keys of a listing make of the catalog, and what they leave of the types. -/
structure Taken (types : Dict String NodeType) (keys : List String)
    (state : Catalog × Dict String NodeType) : Prop where
  coherent : state.1.Coherent
  order : state.1.order = (keys.filter types.contains).eraseDups
  left : state.2.entries = types.entries.filter fun entry => entry.1 ∉ keys
  get?_eq : ∀ key, state.1.get? key = if key ∈ keys then types.get? key else none

variable {types : Dict String NodeType} {keys : List String}
  {state : Catalog × Dict String NodeType}

theorem taken_nil (types : Dict String NodeType) : Taken types [] ({}, types) where
  coherent := coherent_empty
  order := rfl
  left := by simp
  get?_eq := by simp [get?]

theorem Taken.get?_left (h : Taken types keys state) (key : String) :
    state.2.get? key = if key ∈ keys then none else types.get? key := by
  apply Option.ext
  intro t
  rw [Dict.get?_eq_some_iff, h.left, List.mem_filter, ← Dict.get?_eq_some_iff]
  by_cases hkey : key ∈ keys <;> simp [hkey]

theorem Taken.of_left_none (h : Taken types keys state) {key : String}
    (hleft : state.2.get? key = none) : Taken types (keys ++ [key]) state := by
  have hgone : key ∉ keys → types.get? key = none := by
    intro hkey
    rwa [h.get?_left, if_neg hkey] at hleft
  refine ⟨h.coherent, ?_, ?_, ?_⟩
  · rw [h.order, List.filter_append]
    cases htype : types.contains key with
    | false => simp [htype]
    | true =>
        have hkey : key ∈ keys := by
          by_contra hkey
          rw [Dict.contains, hgone hkey] at htype
          cases htype
        rw [List.filter_singleton, htype, cond_true,
          eraseDups_concat_of_mem (List.mem_filter.mpr ⟨hkey, htype⟩)]
  · rw [h.left]
    apply List.filter_congr
    rintro ⟨query, t⟩ hentry
    by_cases hquery : query = key
    · subst hquery
      have hkey : query ∈ keys := by
        by_contra hkey
        rw [Dict.get?_eq_some_iff.mpr hentry] at hgone
        cases hgone hkey
      simp [hkey]
    · simp [hquery]
  · intro query
    rw [h.get?_eq]
    by_cases hquery : query = key
    · subst hquery
      by_cases hkey : query ∈ keys
      · simp [hkey]
      · simp [hkey, hgone hkey]
    · simp [hquery]

theorem Taken.of_left_some (h : Taken types keys state) {key : String} {t : NodeType}
    (hleft : state.2.get? key = some t) :
    Taken types (keys ++ [key]) (state.1.insertAt key t, state.2.erase key) := by
  rw [h.get?_left] at hleft
  have hnew : key ∉ keys := by
    intro hkey
    rw [if_pos hkey] at hleft
    cases hleft
  rw [if_neg hnew] at hleft
  have hmissing : key ∉ state.1.order := by
    rw [h.coherent.shown_iff, h.get?_eq, if_neg hnew]
    simp
  refine ⟨h.coherent.insertAt key t, ?_, ?_, ?_⟩
  · have hcontains : types.contains key = true := by
      rw [Dict.contains, hleft]
      rfl
    rw [order_insertAt_of_not_mem h.coherent hmissing, h.order, List.filter_append,
      List.filter_singleton, hcontains, cond_true,
      eraseDups_concat_of_not_mem fun hmem => hnew (List.mem_of_mem_filter hmem)]
  · change state.2.entries.filter (fun entry => decide (compare key entry.1 ≠ .eq)) = _
    rw [h.left, List.filter_filter]
    apply List.filter_congr
    rintro ⟨query, other⟩ _
    have hcompare : compare key query = .eq ↔ query = key := by
      rw [Std.LawfulEqCmp.compare_eq_iff_eq, eq_comm]
    simp [hcompare, not_or, and_comm]
  · intro query
    by_cases hquery : query = key
    · subst hquery
      simp [get?_insertAt_self, hleft]
    · rw [get?_insertAt_of_ne _ _ hquery, h.get?_eq]
      simp [hquery]

theorem Taken.takeUp (h : Taken types keys state) (key : String) :
    Taken types (keys ++ [key]) (takeUp state key) := by
  unfold Catalog.takeUp
  cases hleft : state.2.get? key with
  | none => exact h.of_left_none hleft
  | some t => exact h.of_left_some hleft

theorem taken_foldl (types : Dict String NodeType) (keys : List String) :
    Taken types keys (keys.foldl takeUp ({}, types)) := by
  induction keys using List.reverseRecOn with
  | nil => exact taken_nil types
  | append_singleton keys key ih =>
      rw [List.foldl_concat]
      exact ih.takeUp key

theorem coherent_ofListing (l : Listing) : (ofListing l).Coherent :=
  (taken_foldl l.types l.order).coherent.insertEntries _

theorem order_ofListing (l : Listing) :
    (ofListing l).order = (l.order.filter l.types.contains).eraseDups ++
      l.types.keys.filter fun key => key ∉ l.order := by
  have htaken := taken_foldl l.types l.order
  have hleft : (l.order.foldl takeUp ({}, l.types)).2.entries.map (·.1) =
      l.types.keys.filter fun key => key ∉ l.order := by
    rw [htaken.left, Dict.keys, List.filter_map]
    rfl
  rw [ofListing_eq, order_insertEntries htaken.coherent, hleft, htaken.order]
  congr 1
  -- What is not named has not been put before, and the keys of a dictionary do not repeat.
  rw [List.filter_eq_self.mpr, eraseDups_of_nodup (l.types.keys_nodup.filter _)]
  intro key hkey
  have hunnamed : key ∉ l.order := by simpa using (List.mem_filter.mp hkey).2
  simp [hunnamed]

theorem get?_insertEntries (c : Catalog) (types : Dict String NodeType) (key : String) :
    (c.insertEntries types.entries).get? key = (types.get? key).or (c.get? key) := by
  rw [get?, types_insertEntries]
  cases hfound : types.get? key with
  | some t =>
      exact Dict.get?_insertAll_of_mem _ types.keys_nodup (Dict.get?_eq_some_iff.mp hfound)
  | none =>
      apply Dict.get?_insertAll_of_not_mem
      rintro ⟨_, t⟩ hentry rfl
      rw [Dict.get?_eq_some_iff.mpr hentry] at hfound
      cases hfound

theorem get?_ofListing (l : Listing) (key : String) :
    (ofListing l).get? key = l.types.get? key := by
  have htaken := taken_foldl l.types l.order
  rw [ofListing_eq, get?_insertEntries, htaken.get?_left, htaken.get?_eq]
  by_cases hkey : key ∈ l.order
  · rw [if_pos hkey, if_pos hkey, Option.none_or]
  · rw [if_neg hkey, if_neg hkey, Option.or_none]

end Listing

theorem get?_insertAll (c : Catalog) (types : List NodeType) (key : String) :
    (c.insertAll types).get? key = (types.reverse.find? fun t => t.key = key).or (c.get? key) := by
  induction types using List.reverseRecOn with
  | nil => rfl
  | append_singleton types t ih =>
      have hlast : c.insertAll (types ++ [t]) = (c.insertAll types).insert t :=
        List.foldl_concat ..
      rw [hlast, List.reverse_append, List.reverse_singleton, List.singleton_append, insert]
      by_cases hkey : t.key = key
      · rw [List.find?_cons_of_pos (by simpa using hkey), ← hkey, get?_insertAt_self,
          Option.some_or]
      · rw [List.find?_cons_of_neg (by simpa using hkey),
          get?_insertAt_of_ne _ _ (Ne.symm hkey), ih]

/-- A listing is shown as it names its keys, each at its first place and none without a type, with
the others after them in ascending order. Types that are added then come at the end, or, under a
key that is known, in place of the type that was there. All the while the keys that are shown are
just those that have a type, each once. -/
theorem ofListing_insertAll_spec (l : Listing) (added : List NodeType) :
    let c := (ofListing l).insertAll added
    (ofListing l).order = (l.order.filter l.types.contains).eraseDups ++
        (l.types.keys.filter fun key => key ∉ l.order) ∧
      l.types.keys.Pairwise (fun a b => compare a b = .lt) ∧
      c.order.Nodup ∧ (∀ key, key ∈ c.order ↔ ∃ t, c.get? key = some t) ∧
      c.order = (ofListing l).order ++
        ((added.map (·.key)).filter fun key => key ∉ (ofListing l).order).eraseDups ∧
      (∀ t, t.key ∈ c.order → (c.insert t).order = c.order) ∧
      (∀ key, c.get? key =
        (added.reverse.find? fun t => t.key = key).or (l.types.get? key)) ∧
      c.shown.map some = c.order.map c.get? ∧ c.shown.length = c.size := by
  have hlisted := coherent_ofListing l
  have hcoherent : ((ofListing l).insertAll added).Coherent := by
    rw [insertAll_eq]
    exact hlisted.insertEntries _
  have hshown := hcoherent.map_shown
  refine ⟨order_ofListing l, List.pairwise_map.mpr l.types.ascending, hcoherent.distinct, ?_, ?_,
    ?_, ?_, hshown, ?_⟩
  · intro key
    rw [hcoherent.shown_iff, Option.isSome_iff_exists]
  · rw [insertAll_eq, order_insertEntries hlisted, List.map_map]
    rfl
  · exact fun t ht => order_insertAt_of_mem hcoherent ht t
  · intro key
    rw [get?_insertAll, get?_ofListing]
  · have hlength := congrArg List.length hshown
    rwa [List.length_map, List.length_map, ← hcoherent.size_eq] at hlength

end Catalog

end NodeCanvas
