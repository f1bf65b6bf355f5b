import Mathlib.Data.List.Range
import NodeCanvas.Proofs.Choices.Requests

namespace NodeCanvas.ChoiceCache.Traffic

structure Numbered (t : Traffic) : Prop where
  numbers : t.sent.map (·.number) = (List.range t.sent.length).reverse
  pending : t.pending.Sublist t.sent

/-- The list of a key is marked as on its way just as long as a request for it is. There is one
such request at most, and no request for the key was sent after it. -/
structure InStep (t : Traffic) (key : ChoiceKey) : Prop where
  single : ∀ q ∈ t.pending, ∀ r ∈ t.pending, q.key = key → r.key = key → q = r
  loading : t.lists.slot? key = some .loading ↔ ∃ q ∈ t.pending, q.key = key
  newest : ∀ q ∈ t.pending, q.key = key → ∀ r ∈ t.sent, r.key = key → r.number ≤ q.number

section Numbers

variable {t : Traffic}

theorem Numbered.after (h : t.Numbered) (e : Event) : (t.after e).Numbered := by
  cases e with
  | ask key =>
      rcases after_ask t key with ⟨hafter, -⟩ | ⟨hafter, -⟩
      · rwa [hafter]
      · rw [hafter]
        refine ⟨?_, h.pending.cons_cons _⟩
        rw [List.map_cons, List.length_cons, h.numbers, List.range_succ, List.reverse_append]
        rfl
  | answer request outcome => exact ⟨h.numbers, List.erase_sublist.trans h.pending⟩
  | forget key => exact ⟨h.numbers, h.pending⟩
  | clear => exact ⟨h.numbers, h.pending⟩

theorem numbered_since (history : List Event) : (since history).Numbered := by
  induction history using List.reverseRecOn with
  | nil => exact ⟨rfl, List.Sublist.refl _⟩
  | append_singleton history e ih =>
      rw [since_append]
      exact ih.after e

theorem Numbered.number_lt (h : t.Numbered) {q : Request} (hq : q ∈ t.sent) :
    q.number < t.sent.length := by
  have hnumber : q.number ∈ t.sent.map (·.number) := List.mem_map.mpr ⟨q, hq, rfl⟩
  rw [h.numbers, List.mem_reverse] at hnumber
  exact List.mem_range.mp hnumber

theorem Numbered.pending_nodup (h : t.Numbered) : t.pending.Nodup := by
  have hnumbers : (t.sent.map (·.number)).Nodup := by
    rw [h.numbers]
    exact List.nodup_reverse.mpr List.nodup_range
  exact (List.Nodup.of_map _ hnumbers).sublist h.pending

end Numbers

section Step

variable {t : Traffic} {key : ChoiceKey}

theorem InStep.of_idle (hpending : ∀ q ∈ t.pending, q.key ≠ key)
    (hslot : t.lists.slot? key ≠ some .loading) : t.InStep key where
  single := fun q hq _ _ hkey => absurd hkey (hpending q hq)
  loading := ⟨fun h => absurd h hslot, fun ⟨q, hq, hkey⟩ => absurd hkey (hpending q hq)⟩
  newest := fun q hq hkey => absurd hkey (hpending q hq)

theorem InStep.of_same {after : Traffic} (h : t.InStep key)
    (hslot : after.lists.slot? key = t.lists.slot? key)
    (hpending : ∀ q, q.key = key → (q ∈ after.pending ↔ q ∈ t.pending))
    (hsent : ∀ r ∈ after.sent, r.key = key → r ∈ t.sent) : after.InStep key where
  single := fun q hq r hr hqkey hrkey =>
    h.single q ((hpending q hqkey).mp hq) r ((hpending r hrkey).mp hr) hqkey hrkey
  loading := by
    rw [hslot, h.loading]
    constructor
    · rintro ⟨q, hq, hkey⟩
      exact ⟨q, (hpending q hkey).mpr hq, hkey⟩
    · rintro ⟨q, hq, hkey⟩
      exact ⟨q, (hpending q hkey).mp hq, hkey⟩
  newest := fun q hq hqkey r hr hrkey =>
    h.newest q ((hpending q hqkey).mp hq) hqkey r (hsent r hr hrkey) hrkey

theorem InStep.idle (h : t.InStep key) (hslot : t.lists.slot? key ≠ some .loading) :
    ∀ q ∈ t.pending, q.key ≠ key :=
  fun q hq hkey => hslot (h.loading.mpr ⟨q, hq, hkey⟩)

theorem InStep.ask (h : t.InStep key) (hnumbered : t.Numbered) (asked : ChoiceKey) :
    (t.after (.ask asked)).InStep key := by
  rcases after_ask t asked with ⟨hafter, -⟩ | ⟨hafter, hslot, -⟩
  · rwa [hafter]
  · rw [hafter]
    by_cases hkey : asked = key
    · subst hkey
      have hidle := h.idle hslot
      -- The new request is the only one for the key that is on its way.
      have honly : ∀ q ∈ ⟨t.sent.length, asked⟩ :: t.pending, q.key = asked →
          q = ⟨t.sent.length, asked⟩ := fun q hq hqkey =>
        (List.mem_cons.mp hq).resolve_right fun hold => hidle q hold hqkey
      refine ⟨fun q hq r hr hqkey hrkey => ?_, ?_, fun q hq hqkey r hr _ => ?_⟩
      · rw [honly q hq hqkey, honly r hr hrkey]
      · exact ⟨fun _ => ⟨_, List.mem_cons_self .., rfl⟩, fun _ => Dict.get?_insert_self ..⟩
      · rw [honly q hq hqkey]
        rcases List.mem_cons.mp hr with rfl | hold
        · exact Nat.le_refl _
        · exact Nat.le_of_lt (hnumbered.number_lt hold)
    · refine h.of_same (Dict.get?_insert_of_ne _ _ (Ne.symm hkey)) (fun q hq => ?_)
        fun r hr hrkey => ?_
      · rw [List.mem_cons, or_iff_right]
        rintro rfl
        exact hkey hq
      · refine (List.mem_cons.mp hr).resolve_left ?_
        rintro rfl
        exact hkey hrkey

theorem InStep.answer (h : t.InStep key) (hnumbered : t.Numbered) {request : Request}
    (hrequest : request ∈ t.pending) (outcome : Except String (List Choice)) :
    (t.after (.answer request outcome)).InStep key := by
  have hslot := slot?_after t (.answer request outcome) key
  by_cases hkey : request.key = key
  · rw [Event.leaves, if_pos hkey] at hslot
    refine .of_idle (fun q hq hqkey => ?_) ?_
    · obtain ⟨hne, hold⟩ := hnumbered.pending_nodup.mem_erase_iff.mp hq
      exact hne (h.single q hold request hrequest hqkey hkey)
    · rw [hslot]
      cases outcome <;> simp [Arrival.slot]
  · rw [Event.leaves, if_neg hkey] at hslot
    refine h.of_same hslot (fun q hq => List.mem_erase_of_ne ?_) fun r hr _ => hr
    rintro rfl
    exact hkey hq

/-- Lists stay in step unless they are forgotten while they are on their way. -/
theorem InStep.after (h : t.InStep key) (hnumbered : t.Numbered) {e : Event}
    (hallowed : e.Allowed t) (hcalm : e.forgets key = true → ∀ q ∈ t.pending, q.key ≠ key) :
    (t.after e).InStep key := by
  cases e with
  | ask asked => exact h.ask hnumbered asked
  | answer request outcome => exact h.answer hnumbered hallowed outcome
  | forget forgotten =>
      have hslot := slot?_after t (.forget forgotten) key
      by_cases hkey : forgotten = key
      · rw [Event.leaves, if_pos hkey] at hslot
        exact .of_idle (hcalm (beq_iff_eq.mpr hkey)) (by simp [hslot])
      · rw [Event.leaves, if_neg hkey] at hslot
        exact h.of_same hslot (fun _ _ => Iff.rfl) fun r hr _ => hr
  | clear =>
      have hslot := slot?_after t .clear key
      exact .of_idle (hcalm rfl) (by simp [hslot, Event.leaves])

theorem inStep_since {history : List Event} (hpermits : Permits {} history)
    (hcalm : ∀ early e, early ++ [e] <+: history → e.forgets key = true →
      ∀ q ∈ (since early).pending, q.key ≠ key) : (since history).InStep key := by
  induction history using List.reverseRecOn with
  | nil => exact .of_idle (by simp [since]) (by simp [since, slot?])
  | append_singleton history e ih =>
      rw [since_append]
      have hwithin : history ++ [e] <+: history ++ [e] := List.prefix_rfl
      refine (ih (hpermits.initial (List.prefix_append ..)) ?_).after (numbered_since _)
        (hpermits.allowed hwithin) (hcalm history e hwithin)
      exact fun early e' hearly => hcalm early e' (hearly.trans (List.prefix_append ..))

end Step

/-! Histories in which nothing is forgotten. -/

def answerTo? (key : ChoiceKey) : Event → Option (Except String (List Choice))
  | .answer request outcome => if request.key = key then some outcome else none
  | .ask _ | .forget _ | .clear => none

def answersTo (key : ChoiceKey) (history : List Event) : List (Except String (List Choice)) :=
  history.filterMap (answerTo? key)

theorem answersTo_append (key : ChoiceKey) (history : List Event) (e : Event) :
    answersTo key (history ++ [e]) = answersTo key history ++ (answerTo? key e).toList := by
  rw [answersTo, List.filterMap_append, List.filterMap_cons]
  cases answerTo? key e <;> rfl

section Fetches

variable {history : List Event} {key : ChoiceKey}

theorem fetches_initial {early : List Event} (h : ∀ e ∈ history, e.isFetch = true)
    (hearly : early <+: history) : ∀ e ∈ early, e.isFetch = true :=
  fun e he => h e (hearly.subset he)

theorem inStep_of_fetches (hpermits : Permits {} history)
    (hfetches : ∀ e ∈ history, e.isFetch = true) (key : ChoiceKey) :
    (since history).InStep key := by
  refine inStep_since hpermits fun early e hwithin hforgets => ?_
  have hfetch := hfetches e (hwithin.subset (by simp))
  cases e with
  | ask | answer => cases hforgets
  | forget | clear => cases hfetch

theorem ask_mem_of_sent {q : Request} (h : q ∈ (since history).sent) : .ask q.key ∈ history := by
  induction history using List.reverseRecOn with
  | nil => cases h
  | append_singleton history e ih =>
      rw [since_append] at h
      rw [List.mem_append]
      cases e with
      | ask key =>
          rcases after_ask (since history) key with ⟨hafter, -⟩ | ⟨hafter, -⟩
          · rw [hafter] at h
            exact .inl (ih h)
          · rw [hafter] at h
            rcases List.mem_cons.mp h with rfl | h
            · exact .inr (List.mem_singleton.mpr rfl)
            · exact .inl (ih h)
      | answer | forget | clear => exact .inl (ih h)

theorem ask_mem_of_answer (hpermits : Permits {} history) {outcome : Except String (List Choice)}
    (h : outcome ∈ answersTo key history) : .ask key ∈ history := by
  obtain ⟨e, he, hanswer⟩ := List.mem_filterMap.mp h
  cases e with
  | answer request given =>
      obtain ⟨early, late, rfl⟩ := List.append_of_mem he
      have hwithin : early ++ [.answer request given] <+: early ++ .answer request given :: late :=
        ⟨late, by simp⟩
      have hpending : request ∈ (since early).pending := hpermits.allowed hwithin
      have hkey : request.key = key := by
        by_contra hkey
        rw [answerTo?, if_neg hkey] at hanswer
        cases hanswer
      exact hkey ▸ List.mem_append_left _
        (ask_mem_of_sent ((numbered_since early).pending.subset hpending))
  | ask | forget | clear => cases hanswer

theorem slot?_ne_none_of_asked (hfetches : ∀ e ∈ history, e.isFetch = true)
    (h : .ask key ∈ history) : (since history).lists.slot? key ≠ none := by
  induction history using List.reverseRecOn with
  | nil => cases h
  | append_singleton history e ih =>
      have hkept := ih (fetches_initial hfetches (List.prefix_append ..))
      have hfetch := hfetches e (by simp)
      rw [since_append, slot?_after]
      cases e with
      | ask asked =>
          rw [Event.leaves]
          split
          · rcases Event.onceAsked_cases ((since history).lists.slot? key) with
              hasked | ⟨choices, -, hasked⟩ <;> simp [hasked]
          · rename_i hkey
            refine hkept ((List.mem_append.mp h).resolve_right ?_)
            rw [List.mem_singleton, Event.ask.injEq]
            exact Ne.symm hkey
      | answer request outcome =>
          rw [Event.leaves]
          split
          · simp
          · exact hkept ((List.mem_append.mp h).resolve_right (by simp))
      | forget | clear => cases hfetch

theorem slot?_of_fetches (hfetches : ∀ e ∈ history, e.isFetch = true) (key : ChoiceKey) :
    (since history).lists.slot? key = some .loading ∨
      (since history).lists.slot? key =
        (answersTo key history).getLast?.map fun outcome => Arrival.slot (key, outcome) := by
  induction history using List.reverseRecOn with
  | nil => exact .inr rfl
  | append_singleton history e ih =>
      have hkept := ih (fetches_initial hfetches (List.prefix_append ..))
      have hfetch := hfetches e (by simp)
      rw [since_append, slot?_after, answersTo_append]
      cases e with
      | ask asked =>
          rw [Event.leaves, answerTo?, Option.toList_none, List.append_nil]
          split
          · rcases Event.onceAsked_cases ((since history).lists.slot? key) with
              hasked | ⟨choices, hready, hasked⟩
            · exact .inl hasked
            · rw [hasked, ← hready]
              exact hkept
          · exact hkept
      | answer request outcome =>
          rw [Event.leaves, answerTo?]
          split
          · rw [Option.toList_some, List.getLast?_append]
            exact .inr rfl
          · rw [Option.toList_none, List.append_nil]
            exact hkept
      | forget | clear => cases hfetch

theorem ready_kept (hpermits : Permits {} history) (hfetches : ∀ e ∈ history, e.isFetch = true)
    {early : List Event} (hearly : early <+: history) {choices : List Choice}
    (hready : (since early).lists.slot? key = some (.ready choices)) :
    (since history).lists.slot? key = some (.ready choices) := by
  obtain ⟨late, rfl⟩ := hearly
  induction late using List.reverseRecOn with
  | nil => rwa [List.append_nil]
  | append_singleton late e ih =>
      have hbefore : early ++ late <+: early ++ (late ++ [e]) := by
        rw [← List.append_assoc]
        exact List.prefix_append ..
      have hkept := ih (hpermits.initial hbefore) (fetches_initial hfetches hbefore)
      have hfetch := hfetches e (by simp)
      rw [← List.append_assoc, since_append, slot?_after, hkept]
      cases e with
      | ask asked =>
          rw [Event.leaves]
          split <;> rfl
      | answer request outcome =>
          -- Who answers is on its way, and then the key is marked so.
          have hpending : request ∈ (since (early ++ late)).pending :=
            hpermits.allowed (e := .answer request outcome) (by rw [List.append_assoc])
          have hstep := inStep_of_fetches (hpermits.initial hbefore)
            (fetches_initial hfetches hbefore) key
          have hkey : request.key ≠ key := by
            intro hkey
            have hloading := hstep.loading.mpr ⟨request, hpending, hkey⟩
            rw [hkept] at hloading
            cases hloading
          rw [Event.leaves, if_neg hkey]
      | forget | clear => cases hfetch

end Fetches

/-- Whatever the order of requests and answers, as long as nothing is forgotten: each key has at
most one request on its way, it is marked so just as long as it has one, and apart from that shows
its latest answer, or nothing if it was never asked for. A list that has arrived stays, and events
of different keys may change places. -/
theorem fetches_spec {history : List Event} (hpermits : Permits {} history)
    (hfetches : ∀ e ∈ history, e.isFetch = true) :
    ((since history).pending.map (·.key)).Nodup ∧
    (∀ key, (since history).lists.slot? key = some .loading ↔
      ∃ q ∈ (since history).pending, q.key = key) ∧
    (∀ key, (∀ q ∈ (since history).pending, q.key ≠ key) →
      (.ask key ∉ history → (since history).lists.slot? key = none) ∧
      (.ask key ∈ history → ∃ outcome, (answersTo key history).getLast? = some outcome ∧
        (since history).lists.slot? key = some (Arrival.slot (key, outcome)))) ∧
    (∀ early, early <+: history → ∀ key choices,
      (since early).lists.slot? key = some (.ready choices) →
      (since history).lists.slot? key = some (.ready choices)) ∧
    ∀ other : List Event,
      (∀ key, other.filter (·.concerns key) = history.filter (·.concerns key)) →
      (since other).lists = (since history).lists := by
  have hstep := inStep_of_fetches hpermits hfetches
  refine ⟨?_, fun key => (hstep key).loading, fun key hidle => ?_, ?_, ?_⟩
  · exact (numbered_since history).pending_nodup.map_on fun q hq r hr hkeys =>
      (hstep r.key).single q hq r hr hkeys rfl
  · have hnot : (since history).lists.slot? key ≠ some .loading := by
      rw [ne_eq, (hstep key).loading]
      rintro ⟨q, hq, hkey⟩
      exact hidle q hq hkey
    have hkept := (slot?_of_fetches hfetches key).resolve_left hnot
    cases hlast : (answersTo key history).getLast? with
    | none =>
        rw [hlast] at hkept
        exact ⟨fun _ => hkept, fun hasked => absurd hkept (slot?_ne_none_of_asked hfetches hasked)⟩
    | some outcome =>
        rw [hlast] at hkept
        have hasked := ask_mem_of_answer hpermits (List.mem_of_getLast? hlast)
        exact ⟨fun hnever => absurd hasked hnever, fun _ => ⟨outcome, rfl, hkept⟩⟩
  · exact fun early hearly key choices => ready_kept hpermits hfetches hearly
  · exact fun other => lists_since_congr

def openaiModels : ChoiceKey := .dependent "models" "openai"

def collections : ChoiceKey := .independent "collections"

def retried : List Event := [
  .ask openaiModels, .ask collections, .ask openaiModels,
  .answer ⟨1, collections⟩ (.error "down"), .ask collections,
  .answer ⟨0, openaiModels⟩ (.ok [.plain "gpt-4o"])]

def retriedLater : List Event := [
  .ask openaiModels, .ask collections, .ask openaiModels,
  .answer ⟨0, openaiModels⟩ (.ok [.plain "gpt-4o"]),
  .answer ⟨1, collections⟩ (.error "down"), .ask collections]

theorem retried_fetches_spec :
    Permits {} retried ∧ (∀ e ∈ retried, e.isFetch = true) ∧
    ((since retried).pending.map (·.key)).Nodup ∧
    (since retried).lists.slot? collections = some .loading ∧
    (∃ outcome, (answersTo openaiModels retried).getLast? = some outcome ∧
      (since retried).lists.slot? openaiModels = some (Arrival.slot (openaiModels, outcome))) ∧
    (since retriedLater).lists = (since retried).lists := by
  have hpermits : Permits {} retried := by decide
  have hfetches : ∀ e ∈ retried, e.isFetch = true := by decide
  obtain ⟨hsingle, hloading, hsettled, -, horder⟩ := fetches_spec hpermits hfetches
  refine ⟨hpermits, hfetches, hsingle, ?_, ?_, ?_⟩
  · exact (hloading collections).mpr ⟨⟨2, collections⟩, by decide, rfl⟩
  · exact (hsettled openaiModels (by decide)).2 (List.mem_cons_self ..)
  · refine horder retriedLater fun key => ?_
    by_cases hopenai : openaiModels = key
    · subst hopenai
      rfl
    · simp [retried, retriedLater, Event.concerns, List.filter_cons, hopenai]

end NodeCanvas.ChoiceCache.Traffic
