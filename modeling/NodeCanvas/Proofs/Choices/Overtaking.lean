import NodeCanvas.Proofs.Choices.Fetches

namespace NodeCanvas.ChoiceCache

/-- The event without what an answer says, apart from whether the list has come. -/
def Event.bare : Event → Event
  | .answer request (.ok _) => .answer request (.ok [])
  | .answer request (.error _) => .answer request (.error "")
  | e => e

namespace Traffic

/-- A newer request for the same key has been sent. -/
def Superseded (t : Traffic) (q : Request) : Prop :=
  ∃ newer ∈ t.sent, newer.key = q.key ∧ q.number < newer.number

instance (t : Traffic) (q : Request) : Decidable (t.Superseded q) :=
  inferInstanceAs (Decidable (∃ newer ∈ t.sent, _ ∧ _))

/-- No answer to a superseded request changes what is kept under its key. -/
def Faithful (history : List Event) : Prop :=
  ∀ early q outcome, early ++ [.answer q outcome] <+: history → (since early).Superseded q →
    (since (early ++ [.answer q outcome])).lists.slot? q.key = (since early).lists.slot? q.key

/-! What answers say has no influence on which requests are sent. -/

def bareSlot : ChoiceSlot → ChoiceSlot
  | .loading => .loading
  | .ready _ => .ready []
  | .failed _ => .failed ""

theorem bare_leaves (e : Event) (key : ChoiceKey) (slot : Option ChoiceSlot) :
    e.bare.leaves key (slot.map bareSlot) = (e.leaves key slot).map bareSlot := by
  cases e with
  | ask asked =>
      rw [Event.bare, Event.leaves, Event.leaves]
      · split
        · rcases slot with _ | _ | _ | _ <;> rfl
        · rfl
      all_goals simp
  | answer request outcome =>
      cases outcome <;> simp only [Event.bare, Event.leaves] <;> split <;> rfl
  | forget forgotten =>
      simp only [Event.bare, Event.leaves]
      split <;> rfl
  | clear => rfl

structure SameCourse (t bare : Traffic) : Prop where
  sent : bare.sent = t.sent
  pending : bare.pending = t.pending
  slots : ∀ key, bare.lists.slot? key = (t.lists.slot? key).map bareSlot

theorem SameCourse.begin_eq {t bare : Traffic} (h : t.SameCourse bare) (key : ChoiceKey) :
    (bare.lists.begin key).1 = (t.lists.begin key).1 := by
  rw [begin, begin, h.slots key]
  rcases t.lists.slot? key with _ | _ | _ | _ <;> rfl

theorem SameCourse.after {t bare : Traffic} (h : t.SameCourse bare) (e : Event) :
    (t.after e).SameCourse (bare.after e.bare) := by
  have hslots : ∀ key, (bare.after e.bare).lists.slot? key =
      ((t.after e).lists.slot? key).map bareSlot := by
    intro key
    rw [slot?_after, slot?_after, h.slots, bare_leaves]
  cases e with
  | ask key =>
      refine ⟨?_, ?_, hslots⟩ <;> simp only [Event.bare, Traffic.after, h.begin_eq key] <;>
        split <;> simp only [h.sent, h.pending]
  | answer request outcome =>
      refine ⟨?_, ?_, hslots⟩ <;> cases outcome
      · exact h.sent
      · exact h.sent
      · exact congrArg (List.erase · request) h.pending
      · exact congrArg (List.erase · request) h.pending
  | forget key => exact ⟨h.sent, h.pending, hslots⟩
  | clear => exact ⟨h.sent, h.pending, hslots⟩

theorem sameCourse_since (history : List Event) :
    (since history).SameCourse (since (history.map Event.bare)) := by
  induction history using List.reverseRecOn with
  | nil => exact ⟨rfl, rfl, fun _ => rfl⟩
  | append_singleton history e ih =>
      rw [List.map_append, List.map_singleton, since_append, since_append]
      exact ih.after e

theorem sent_since_congr {history other : List Event}
    (h : other.map Event.bare = history.map Event.bare) :
    (since other).sent = (since history).sent := by
  rw [← (sameCourse_since other).sent, h, (sameCourse_since history).sent]

/-! When an answer is superseded, and what it does then. -/

theorem slot?_after_answer (t : Traffic) (q : Request) (outcome : Except String (List Choice)) :
    (t.after (.answer q outcome)).lists.slot? q.key = some (Arrival.slot (q.key, outcome)) := by
  rw [slot?_after, Event.leaves, if_pos rfl]

/-- An answer could always have said something that is not kept. -/
theorem exists_telling_outcome (key : ChoiceKey) (outcome : Except String (List Choice))
    (slot : Option ChoiceSlot) :
    ∃ other : Except String (List Choice),
      (∀ q, (Event.answer q other).bare = (Event.answer q outcome).bare) ∧
      some (Arrival.slot (key, other)) ≠ slot := by
  cases outcome with
  | error message =>
      by_cases hempty : slot = some (.failed "")
      · exact ⟨.error "down", fun _ => rfl, by simp [hempty, Arrival.slot]⟩
      · exact ⟨.error "", fun _ => rfl, Ne.symm hempty⟩
  | ok choices =>
      by_cases hempty : slot = some (.ready [])
      · exact ⟨.ok [.plain ""], fun _ => rfl, by simp [hempty, Arrival.slot]⟩
      · exact ⟨.ok [], fun _ => rfl, Ne.symm hempty⟩

theorem eq_answer_of_bare {e : Event} {q : Request} {outcome : Except String (List Choice)}
    (h : e.bare = (Event.answer q outcome).bare) : ∃ given, e = .answer q given := by
  rcases e with _ | ⟨request, _ | _⟩ | _ | _ <;> cases outcome <;> cases h <;> exact ⟨_, rfl⟩

theorem not_superseded_of_inStep {t : Traffic} {q : Request} (h : t.InStep q.key)
    (hq : q ∈ t.pending) : ¬ t.Superseded q := by
  rintro ⟨newer, hnewer, hkey, hlt⟩
  exact absurd hlt (Nat.not_lt.mpr (h.newest q hq rfl newer hnewer hkey))

/-- A request is superseded only where its key was forgotten while a request for it was on its
way. -/
theorem exists_forgotten_of_superseded {history : List Event} (hpermits : Permits {} history)
    {q : Request} (hq : q ∈ (since history).pending) (h : (since history).Superseded q) :
    ∃ before e between, history = before ++ e :: between ∧ e.forgets q.key = true ∧
      ∃ r ∈ (since before).pending, r.key = q.key := by
  by_contra hcalm
  refine not_superseded_of_inStep (inStep_since hpermits ?_) hq h
  intro before e hwithin hforgets r hr hkey
  obtain ⟨between, rfl⟩ := hwithin
  exact hcalm ⟨before, e, between, by simp, hforgets, r, hr, hkey⟩

theorem faithful_of_none_superseded {history : List Event}
    (h : ∀ early q outcome, early ++ [.answer q outcome] <+: history →
      ¬ (since early).Superseded q)
    {other : List Event} (hother : other.map Event.bare = history.map Event.bare) :
    Faithful other := by
  rintro early q outcome ⟨late, rfl⟩ hsuperseded
  rw [List.append_assoc, List.map_append, List.map_append, List.map_singleton] at hother
  obtain ⟨early', rest, rfl, hearly, hrest⟩ := List.map_eq_append_iff.mp hother.symm
  obtain ⟨e, late', rfl, he, -⟩ := List.map_eq_cons_iff.mp hrest
  obtain ⟨given, rfl⟩ := eq_answer_of_bare he
  refine absurd ?_ (h early' q given ⟨late', by simp⟩)
  rwa [Superseded, sent_since_congr hearly]

/-- Whatever the answers say, none of them changes what is kept in spite of a newer request, just
where no superseded request is answered. Where one is, its key was forgotten while a request for it
was on its way, and the late answer is kept in place of whatever was there. -/
theorem faithful_iff_none_superseded {history : List Event} (hpermits : Permits {} history) :
    ((∀ other : List Event, other.map Event.bare = history.map Event.bare → Faithful other) ↔
      ∀ early q outcome, early ++ [.answer q outcome] <+: history →
        ¬ (since early).Superseded q) ∧
    ∀ early q outcome, early ++ [.answer q outcome] <+: history → (since early).Superseded q →
      (∃ before e between, early = before ++ e :: between ∧ e.forgets q.key = true ∧
        ∃ r ∈ (since before).pending, r.key = q.key) ∧
      (since (early ++ [.answer q outcome])).lists.slot? q.key =
        some (Arrival.slot (q.key, outcome)) := by
  refine ⟨⟨?_, fun h other => faithful_of_none_superseded h⟩, ?_⟩
  · rintro hfaithful early q outcome ⟨late, rfl⟩ hsuperseded
    obtain ⟨told, hbare, hne⟩ :=
      exists_telling_outcome q.key outcome ((since early).lists.slot? q.key)
    -- With this answer in its place, the same history would show the change.
    have hkept := hfaithful (early ++ [.answer q told] ++ late) (by simp [hbare]) early q told
      (List.prefix_append ..) hsuperseded
    rw [since_append, slot?_after_answer] at hkept
    exact hne hkept
  · intro early q outcome hwithin hsuperseded
    have hearly : early <+: history := (List.prefix_append ..).trans hwithin
    refine ⟨?_, ?_⟩
    · exact exists_forgotten_of_superseded (hpermits.initial hearly)
        (hpermits.allowed hwithin) hsuperseded
    · rw [since_append, slot?_after_answer]

/-- A list is forgotten while it is on its way, and asked for again. The second request is answered
before the first one. -/
def overtaken : List Event := [
  .ask openaiModels, .forget openaiModels, .ask openaiModels,
  .answer ⟨1, openaiModels⟩ (.ok [.plain "gpt-4o"]),
  .answer ⟨0, openaiModels⟩ (.ok [.plain "gpt-3"])]

/-- All lists are forgotten while one is on its way, and that one is asked for again. Only the
first request is answered. -/
def mistaken : List Event := [
  .ask openaiModels, .clear, .ask openaiModels,
  .answer ⟨0, openaiModels⟩ (.ok [.plain "gpt-3"])]

theorem overtaken_spec :
    Permits {} overtaken ∧ (since (overtaken.take 4)).Superseded ⟨0, openaiModels⟩ ∧
    (since overtaken).lists.slot? openaiModels = some (.ready [.plain "gpt-3"]) := by
  have hpermits : Permits {} overtaken := by decide
  have hsuperseded : (since (overtaken.take 4)).Superseded ⟨0, openaiModels⟩ := by decide
  obtain ⟨-, hlate⟩ := faithful_iff_none_superseded hpermits
  exact ⟨hpermits, hsuperseded, (hlate (overtaken.take 4) ⟨0, openaiModels⟩
    (.ok [.plain "gpt-3"]) List.prefix_rfl hsuperseded).2⟩

/-- The older answer replaces the newer one, and it passes for the answer that is awaited. -/
theorem overtaken_not_faithful :
    (Permits {} overtaken ∧ ¬ Faithful overtaken) ∧
    Permits {} mistaken ∧ (since mistaken).pending = [⟨1, openaiModels⟩] ∧
      (since mistaken).lists.slot? openaiModels = some (.ready [.plain "gpt-3"]) := by
  refine ⟨⟨by decide, fun hfaithful => ?_⟩, by decide, by decide, by decide⟩
  have hkept := hfaithful (overtaken.take 4) ⟨0, openaiModels⟩ (.ok [.plain "gpt-3"])
    List.prefix_rfl (by decide)
  revert hkept
  decide

end Traffic

end NodeCanvas.ChoiceCache
