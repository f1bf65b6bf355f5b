import Mathlib.Data.List.Infix
import NodeCanvas.Proofs.Form.Arrivals

/-!
Requests for lists of choices, and the answers to them in any order. The lists are told the key of
an answer, and not the request that it answers. Still, as long as nothing is forgotten, a key has
at most one request on its way, and what is kept under it is the latest answer.
-/
namespace NodeCanvas.ChoiceCache

/-- A request that was sent, told from all others by its number. -/
structure Request where
  number : Nat
  key : ChoiceKey
deriving DecidableEq

inductive Event where
  | ask (key : ChoiceKey)
  | answer (request : Request) (outcome : Except String (List Choice))
  | forget (key : ChoiceKey)
  | clear

namespace Event

def isFetch : Event → Bool
  | .ask _ | .answer .. => true
  | .forget _ | .clear => false

def forgets (key : ChoiceKey) : Event → Bool
  | .forget forgotten => forgotten == key
  | .clear => true
  | .ask _ | .answer .. => false

def concerns (key : ChoiceKey) : Event → Bool
  | .ask asked => asked == key
  | .answer request _ => request.key == key
  | .forget forgotten => forgotten == key
  | .clear => true

/-- What is kept under a key once it was asked for. -/
def onceAsked : Option ChoiceSlot → Option ChoiceSlot
  | some (.ready choices) => some (.ready choices)
  | _ => some .loading

/-- What is kept under a key after the event, where `slot` was kept before. -/
def leaves (e : Event) (key : ChoiceKey) (slot : Option ChoiceSlot) : Option ChoiceSlot :=
  match e with
  | .ask asked => if asked = key then onceAsked slot else slot
  | .answer request outcome =>
      if request.key = key then some (Arrival.slot (key, outcome)) else slot
  | .forget forgotten => if forgotten = key then none else slot
  | .clear => none

theorem onceAsked_cases (slot : Option ChoiceSlot) :
    onceAsked slot = some .loading ∨
      ∃ choices, slot = some (.ready choices) ∧ onceAsked slot = some (.ready choices) := by
  unfold onceAsked
  split
  · exact .inr ⟨_, rfl, rfl⟩
  · exact .inl rfl

theorem leaves_of_not_concerns {key : ChoiceKey} {e : Event} (h : e.concerns key = false)
    (slot : Option ChoiceSlot) : e.leaves key slot = slot := by
  cases e with
  | ask | answer | forget => exact if_neg (by simpa [concerns] using h)
  | clear => cases h

end Event

/-- The lists, with what is known to somebody who watches the requests. -/
structure Traffic where
  lists : ChoiceCache := {}
  /-- The requests that were sent, the latest one first. -/
  sent : List Request := []
  /-- The requests on their way, which were not answered yet. -/
  pending : List Request := []

namespace Traffic

/-- A key that may be asked for is asked for by a new request. -/
def after (t : Traffic) : Event → Traffic
  | .ask key =>
      if (t.lists.begin key).1 then {
        lists := (t.lists.begin key).2
        sent := ⟨t.sent.length, key⟩ :: t.sent
        pending := ⟨t.sent.length, key⟩ :: t.pending }
      else { t with lists := (t.lists.begin key).2 }
  | .answer request outcome => { t with
      lists := t.lists.complete request.key outcome
      pending := t.pending.erase request }
  | .forget key => { t with lists := t.lists.forget key }
  | .clear => { t with lists := t.lists.clear }

def since (history : List Event) : Traffic := history.foldl after {}

theorem since_append (history : List Event) (e : Event) :
    since (history ++ [e]) = (since history).after e := by
  rw [since, List.foldl_append]
  rfl

end Traffic

def Event.Allowed (t : Traffic) : Event → Prop
  | .answer request _ => request ∈ t.pending
  | _ => True

instance (t : Traffic) : (e : Event) → Decidable (e.Allowed t)
  | .answer request _ => inferInstanceAs (Decidable (request ∈ t.pending))
  | .ask _ | .forget _ | .clear => inferInstanceAs (Decidable True)

namespace Traffic

def Permits (t : Traffic) : List Event → Prop
  | [] => True
  | e :: rest => e.Allowed t ∧ (t.after e).Permits rest

instance decidablePermits (t : Traffic) : (history : List Event) → Decidable (t.Permits history)
  | [] => inferInstanceAs (Decidable True)
  | e :: rest =>
      have := decidablePermits (t.after e) rest
      inferInstanceAs (Decidable (e.Allowed t ∧ (t.after e).Permits rest))

theorem permits_append {t : Traffic} {early late : List Event} :
    t.Permits (early ++ late) ↔ t.Permits early ∧ (early.foldl after t).Permits late := by
  induction early generalizing t with
  | nil => simp [Permits]
  | cons e rest ih => simp [Permits, ih, and_assoc]

theorem Permits.initial {early history : List Event} (h : Permits {} history)
    (hearly : early <+: history) : Permits {} early := by
  obtain ⟨late, rfl⟩ := hearly
  exact (permits_append.mp h).1

theorem Permits.allowed {early history : List Event} {e : Event} (h : Permits {} history)
    (hearly : early ++ [e] <+: history) : e.Allowed (since early) :=
  (permits_append.mp (h.initial hearly)).2.1

/-! What the lists keep, key by key. -/

/-- The lists refuse a key that is on its way or has arrived. -/
theorem after_ask (t : Traffic) (key : ChoiceKey) :
    (t.after (.ask key) = t ∧ (t.lists.slot? key = some .loading ∨
      ∃ choices, t.lists.slot? key = some (.ready choices))) ∨
    (t.after (.ask key) = {
        lists := { slots := t.lists.slots.insert key .loading }
        sent := ⟨t.sent.length, key⟩ :: t.sent
        pending := ⟨t.sent.length, key⟩ :: t.pending } ∧
      t.lists.slot? key ≠ some .loading ∧
      ∀ choices, t.lists.slot? key ≠ some (.ready choices)) := by
  cases hslot : t.lists.slot? key with
  | none => exact .inr ⟨by simp [after, begin, hslot], by simp⟩
  | some slot =>
      cases slot with
      | loading => exact .inl ⟨by simp [after, begin, hslot], .inl rfl⟩
      | ready choices => exact .inl ⟨by simp [after, begin, hslot], .inr ⟨choices, rfl⟩⟩
      | failed message => exact .inr ⟨by simp [after, begin, hslot], by simp⟩

theorem slot?_after (t : Traffic) (e : Event) (key : ChoiceKey) :
    (t.after e).lists.slot? key = e.leaves key (t.lists.slot? key) := by
  cases e with
  | ask asked =>
      by_cases hkey : asked = key
      · subst hkey
        rw [Event.leaves, if_pos rfl]
        rcases after_ask t asked with ⟨hafter, hloading | ⟨choices, hready⟩⟩ | ⟨hafter, -, hopen⟩
        · rw [hafter, hloading]
          rfl
        · rw [hafter, hready]
          rfl
        · rcases Event.onceAsked_cases (t.lists.slot? asked) with hasked | ⟨choices, hready, -⟩
          · rw [hafter, hasked]
            exact Dict.get?_insert_self ..
          · exact absurd hready (hopen choices)
      · rw [Event.leaves, if_neg hkey, after]
        split <;> exact slot?_begin_of_ne _ (Ne.symm hkey)
  | answer request outcome =>
      by_cases hkey : request.key = key
      · subst hkey
        rw [Event.leaves, if_pos rfl]
        exact Dict.get?_insert_self ..
      · rw [Event.leaves, if_neg hkey]
        exact slot?_complete_of_ne _ outcome (Ne.symm hkey)
  | forget forgotten =>
      by_cases hkey : forgotten = key
      · subst hkey
        rw [Event.leaves, if_pos rfl]
        exact Dict.get?_erase_self ..
      · rw [Event.leaves, if_neg hkey]
        exact Dict.get?_erase_of_ne _ (Ne.symm hkey)
  | clear => rfl

theorem slot?_since (history : List Event) (key : ChoiceKey) :
    (since history).lists.slot? key = history.foldl (fun slot e => e.leaves key slot) none := by
  induction history using List.reverseRecOn with
  | nil => rfl
  | append_singleton history e ih =>
      rw [since_append, slot?_after, ih, List.foldl_append]
      rfl

theorem slot?_since_filter (history : List Event) (key : ChoiceKey) :
    (since history).lists.slot? key =
      (history.filter (·.concerns key)).foldl (fun slot e => e.leaves key slot) none := by
  rw [slot?_since, List.foldl_filter]
  -- An event that is not about the key leaves what is kept under it.
  congr 1
  funext slot e
  split
  · rfl
  · rename_i hkey
    exact Event.leaves_of_not_concerns (Bool.eq_false_iff.mpr hkey) slot

/-- Events of different keys may change places: the lists depend on what happens to each key. -/
theorem lists_since_congr {history other : List Event}
    (h : ∀ key, other.filter (·.concerns key) = history.filter (·.concerns key)) :
    (since other).lists = (since history).lists := by
  have hslots : (since other).lists.slots = (since history).lists.slots := by
    apply Dict.ext_get?
    intro key
    have hslot := slot?_since_filter other key
    rwa [h key, ← slot?_since_filter] at hslot
  exact congrArg ChoiceCache.mk hslots

end Traffic

end NodeCanvas.ChoiceCache
