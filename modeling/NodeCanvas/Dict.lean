/-!
Dictionaries as strictly ascending association lists. Two dictionaries with the same look-ups are
equal, so equality of dictionaries never depends on how they were built.
-/
namespace NodeCanvas

/-- Keys that are compared by a total order whose equality is identity. -/
class OrderedKey (κ : Type) extends Ord κ, Std.TransOrd κ, Std.LawfulEqOrd κ

instance : OrderedKey String where

def Ascending {κ α : Type} [OrderedKey κ] (entries : List (κ × α)) : Prop :=
  entries.Pairwise fun a b => compare a.1 b.1 = .lt

namespace Ascending

variable {κ α : Type} [OrderedKey κ]

def find? (key : κ) : List (κ × α) → Option α
  | [] => none
  | (other, value) :: rest =>
    if compare key other = .eq then some value else find? key rest

/-- A value put at its key's place, over the value that was there. -/
def put (key : κ) (value : α) : List (κ × α) → List (κ × α)
  | [] => [(key, value)]
  | (other, old) :: rest =>
    match compare key other with
    | .lt => (key, value) :: (other, old) :: rest
    | .eq => (key, value) :: rest
    | .gt => (other, old) :: put key value rest

theorem mem_put {key : κ} {value : α} {entry : κ × α} {entries : List (κ × α)}
    (h : entry ∈ put key value entries) : entry = (key, value) ∨ entry ∈ entries := by
  induction entries with
  | nil => simpa [put] using h
  | cons head rest ih =>
    rcases head with ⟨other, old⟩
    cases hc : compare key other with
    | lt => simpa [put, hc] using h
    | eq =>
      simp only [put, hc, List.mem_cons] at h
      rcases h with rfl | h
      · exact .inl rfl
      · exact .inr (List.mem_cons_of_mem _ h)
    | gt =>
      simp only [put, hc, List.mem_cons] at h
      rcases h with rfl | h
      · exact .inr (List.mem_cons_self ..)
      · rcases ih h with rfl | h
        · exact .inl rfl
        · exact .inr (List.mem_cons_of_mem _ h)

theorem put_ascending {entries : List (κ × α)} (h : Ascending entries) (key : κ) (value : α) :
    Ascending (put key value entries) := by
  induction entries with
  | nil => simp [put, Ascending]
  | cons head rest ih =>
    rcases head with ⟨other, old⟩
    obtain ⟨hhead, hrest⟩ := List.pairwise_cons.1 h
    cases hc : compare key other with
    | lt =>
      simp only [put, hc]
      refine List.pairwise_cons.2 ⟨?_, h⟩
      intro entry hentry
      rcases List.mem_cons.1 hentry with rfl | hentry
      · exact hc
      · exact Std.TransCmp.lt_trans hc (hhead entry hentry)
    | eq =>
      obtain rfl := Std.LawfulEqCmp.eq_of_compare hc
      simp only [put, hc]
      exact List.pairwise_cons.2 ⟨hhead, hrest⟩
    | gt =>
      simp only [put, hc]
      refine List.pairwise_cons.2 ⟨?_, ih hrest⟩
      intro entry hentry
      rcases mem_put hentry with rfl | hentry
      · exact Std.OrientedCmp.lt_of_gt hc
      · exact hhead entry hentry

theorem find?_put (key query : κ) (value : α) (entries : List (κ × α)) :
    find? query (put key value entries) =
      if compare query key = .eq then some value else find? query entries := by
  induction entries with
  | nil => simp [put, find?]
  | cons head rest ih =>
    rcases head with ⟨other, old⟩
    cases hc : compare key other with
    | lt => simp [put, hc, find?]
    | eq =>
      obtain rfl := Std.LawfulEqCmp.eq_of_compare hc
      by_cases hq : compare query key = .eq <;> simp [put, find?, hq]
    | gt =>
      simp only [put, hc, find?, ih]
      by_cases hq : compare query key = .eq
      · obtain rfl := Std.LawfulEqCmp.eq_of_compare hq
        simp [hc]
      · simp [hq]

theorem find?_eq_none {key : κ} {entries : List (κ × α)}
    (h : ∀ entry ∈ entries, compare key entry.1 ≠ .eq) : find? key entries = none := by
  induction entries with
  | nil => rfl
  | cons head rest ih =>
    have hhead := h head (List.mem_cons_self ..)
    simp [find?, hhead, ih fun entry hentry => h entry (List.mem_cons_of_mem _ hentry)]

theorem find?_filter (key : κ) (entries : List (κ × α)) (query : κ) :
    find? query (entries.filter fun entry => decide (compare key entry.1 ≠ .eq)) =
      if compare query key = .eq then none else find? query entries := by
  induction entries with
  | nil => simp [find?]
  | cons head rest ih =>
    rcases head with ⟨other, value⟩
    by_cases hk : compare key other = .eq
    · obtain rfl := Std.LawfulEqCmp.eq_of_compare hk
      simp only [List.filter_cons, ne_eq, hk, not_true_eq_false, decide_false, find?]
      rw [if_neg (by decide)]
      by_cases hq : compare query key = .eq <;> simpa [hq] using ih
    · simp only [List.filter_cons, ne_eq, hk, not_false_eq_true, decide_true, if_true, find?]
      by_cases hq : compare query other = .eq
      · obtain rfl := Std.LawfulEqCmp.eq_of_compare hq
        have : compare query key ≠ .eq := fun h => hk (Std.OrientedCmp.eq_symm h)
        simp [this]
      · simpa [hq] using ih

theorem mem_of_find? {key : κ} {value : α} {entries : List (κ × α)}
    (h : find? key entries = some value) : (key, value) ∈ entries := by
  induction entries with
  | nil => simp [find?] at h
  | cons head rest ih =>
    rcases head with ⟨other, old⟩
    by_cases hk : compare key other = .eq
    · obtain rfl := Std.LawfulEqCmp.eq_of_compare hk
      simp only [find?, hk, if_true, Option.some.injEq] at h
      simp [h]
    · simp only [find?, hk, if_false] at h
      exact List.mem_cons_of_mem _ (ih h)

theorem find?_of_mem {key : κ} {value : α} {entries : List (κ × α)} (h : Ascending entries)
    (hmem : (key, value) ∈ entries) : find? key entries = some value := by
  induction entries with
  | nil => simp at hmem
  | cons head rest ih =>
    rcases head with ⟨other, old⟩
    obtain ⟨hhead, hrest⟩ := List.pairwise_cons.1 h
    rcases List.mem_cons.1 hmem with heq | hmem
    · cases heq
      simp [find?]
    · have hlt := hhead _ hmem
      have : compare key other ≠ .eq := by
        intro heq
        rw [Std.OrientedCmp.eq_symm heq] at hlt
        cases hlt
      simp [find?, this, ih hrest hmem]

/-- Ascending lists with the same look-ups are the same. -/
theorem ext_find? {left right : List (κ × α)} (hl : Ascending left) (hr : Ascending right)
    (h : ∀ key, find? key left = find? key right) : left = right := by
  have hmem : ∀ entry, entry ∈ left ↔ entry ∈ right := by
    rintro ⟨key, value⟩
    exact ⟨fun hm => mem_of_find? (h key ▸ find?_of_mem hl hm),
      fun hm => mem_of_find? (h key ▸ find?_of_mem hr hm)⟩
  clear h
  have irrefl (key : κ) : compare key key ≠ .lt := by simp
  induction left generalizing right with
  | nil =>
    rcases right with _ | ⟨entry, rest⟩
    · rfl
    · exact absurd ((hmem entry).2 (List.mem_cons_self ..)) (by simp)
  | cons a as ih =>
    rcases right with _ | ⟨b, bs⟩
    · exact absurd ((hmem a).1 (List.mem_cons_self ..)) (by simp)
    · obtain ⟨ha, has⟩ := List.pairwise_cons.1 hl
      obtain ⟨hb, hbs⟩ := List.pairwise_cons.1 hr
      have hab : a = b := by
        rcases List.mem_cons.1 ((hmem a).1 (List.mem_cons_self ..)) with h | h
        · exact h
        · rcases List.mem_cons.1 ((hmem b).2 (List.mem_cons_self ..)) with h' | h'
          · exact h'.symm
          · exact absurd (Std.TransCmp.lt_trans (hb a h) (ha b h')) (irrefl _)
      subst hab
      congr 1
      refine ih has hbs fun entry => ?_
      constructor
      · intro hm
        rcases List.mem_cons.1 ((hmem entry).1 (List.mem_cons_of_mem _ hm)) with rfl | h
        · exact absurd (ha _ hm) (irrefl _)
        · exact h
      · intro hm
        rcases List.mem_cons.1 ((hmem entry).2 (List.mem_cons_of_mem _ hm)) with rfl | h
        · exact absurd (hb _ hm) (irrefl _)
        · exact h

end Ascending

/-- A finite map, kept in ascending order of its keys. -/
structure Dict (κ : Type) [OrderedKey κ] (α : Type) where
  entries : List (κ × α)
  ascending : Ascending entries

namespace Dict

variable {κ α β : Type} [OrderedKey κ]

def empty : Dict κ α := ⟨[], List.Pairwise.nil⟩

instance : EmptyCollection (Dict κ α) := ⟨empty⟩

instance : Inhabited (Dict κ α) := ⟨empty⟩

instance [BEq κ] [BEq α] : BEq (Dict κ α) := ⟨fun a b => a.entries == b.entries⟩

instance [DecidableEq κ] [DecidableEq α] : DecidableEq (Dict κ α) := fun a b =>
  if h : a.entries = b.entries then
    .isTrue (by cases a; cases b; cases h; rfl)
  else
    .isFalse fun hab => h (congrArg entries hab)

def get? (d : Dict κ α) (key : κ) : Option α := Ascending.find? key d.entries

def contains (d : Dict κ α) (key : κ) : Bool := (d.get? key).isSome

def insert (d : Dict κ α) (key : κ) (value : α) : Dict κ α :=
  ⟨Ascending.put key value d.entries, Ascending.put_ascending d.ascending key value⟩

def erase (d : Dict κ α) (key : κ) : Dict κ α :=
  ⟨d.entries.filter fun entry => decide (compare key entry.1 ≠ .eq),
    d.ascending.sublist List.filter_sublist⟩

def keys (d : Dict κ α) : List κ := d.entries.map (·.1)

def values (d : Dict κ α) : List α := d.entries.map (·.2)

def size (d : Dict κ α) : Nat := d.entries.length

def isEmpty (d : Dict κ α) : Bool := d.entries.isEmpty

/-- The entries added one after the other, a later one over an earlier one of the same key. -/
def insertAll (d : Dict κ α) (entries : List (κ × α)) : Dict κ α :=
  entries.foldl (fun d entry => d.insert entry.1 entry.2) d

def ofList (entries : List (κ × α)) : Dict κ α := empty.insertAll entries

def update (d e : Dict κ α) : Dict κ α := d.insertAll e.entries

@[simp] theorem get?_empty (key : κ) : (empty : Dict κ α).get? key = none := rfl

theorem get?_insert (d : Dict κ α) (key query : κ) (value : α) :
    (d.insert key value).get? query =
      if compare query key = .eq then some value else d.get? query :=
  Ascending.find?_put key query value d.entries

@[simp] theorem get?_insert_self (d : Dict κ α) (key : κ) (value : α) :
    (d.insert key value).get? key = some value := by
  simp [get?_insert]

theorem get?_insert_of_ne (d : Dict κ α) {key query : κ} (value : α) (h : query ≠ key) :
    (d.insert key value).get? query = d.get? query := by
  rw [get?_insert, if_neg fun hc => h (Std.LawfulEqCmp.eq_of_compare hc)]

theorem get?_erase (d : Dict κ α) (key query : κ) :
    (d.erase key).get? query = if compare query key = .eq then none else d.get? query :=
  Ascending.find?_filter key d.entries query

@[simp] theorem get?_erase_self (d : Dict κ α) (key : κ) : (d.erase key).get? key = none := by
  simp [get?_erase]

theorem get?_erase_of_ne (d : Dict κ α) {key query : κ} (h : query ≠ key) :
    (d.erase key).get? query = d.get? query := by
  rw [get?_erase, if_neg fun hc => h (Std.LawfulEqCmp.eq_of_compare hc)]

theorem get?_eq_some_iff {d : Dict κ α} {key : κ} {value : α} :
    d.get? key = some value ↔ (key, value) ∈ d.entries :=
  ⟨Ascending.mem_of_find?, Ascending.find?_of_mem d.ascending⟩

theorem mem_keys_iff {d : Dict κ α} {key : κ} : key ∈ d.keys ↔ (d.get? key).isSome := by
  simp only [keys, List.mem_map, Option.isSome_iff_exists, get?_eq_some_iff]
  constructor
  · rintro ⟨⟨k, v⟩, h, rfl⟩
    exact ⟨v, h⟩
  · rintro ⟨v, h⟩
    exact ⟨(key, v), h, rfl⟩

theorem ext_get? {d e : Dict κ α} (h : ∀ key, d.get? key = e.get? key) : d = e := by
  have := Ascending.ext_find? d.ascending e.ascending h
  cases d
  cases e
  cases this
  rfl

theorem insertAll_nil (d : Dict κ α) : d.insertAll [] = d := rfl

theorem insertAll_cons (d : Dict κ α) (entry : κ × α) (rest : List (κ × α)) :
    d.insertAll (entry :: rest) = (d.insert entry.1 entry.2).insertAll rest := rfl

theorem get?_insertAll_of_not_mem (d : Dict κ α) (entries : List (κ × α)) {key : κ}
    (h : ∀ entry ∈ entries, entry.1 ≠ key) : (d.insertAll entries).get? key = d.get? key := by
  induction entries generalizing d with
  | nil => rfl
  | cons entry rest ih =>
    rw [insertAll_cons, ih _ fun e he => h e (List.mem_cons_of_mem _ he),
      get?_insert_of_ne _ _ (h entry (List.mem_cons_self ..)).symm]

end Dict

end NodeCanvas
