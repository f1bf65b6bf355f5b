import NodeCanvas.Proofs.Json.Record

namespace NodeCanvas

open Source (ofJson toJson?)
open Json (slots slot? kept)

/-- What was read is read again after it was written, and only `null` is written as `null`. -/
structure Rereads {α : Type} (read : Source → Option α) (write : α → Json) : Prop where
  reread : ∀ s a, read s = some a → read (ofJson (write a)) = some a
  null_of_null : ∀ s a, read s = some a → write a = .null → s = .null

namespace Source

theorem itemsOfJson_eq (items : List Json) : itemsOfJson items = items.map ofJson := by
  induction items with
  | nil => rfl
  | cons item rest ih => rw [itemsOfJson, ih, List.map_cons]

theorem membersOfJson_eq (members : List (String × Json)) :
    membersOfJson members = keyed (members.map fun m => (m.1, ofJson m.2)) := by
  induction members with
  | nil => rfl
  | cons member rest ih =>
      obtain ⟨key, value⟩ := member
      rw [membersOfJson, ih]
      rfl

theorem ofJson_record (members : List (Option (String × Json))) :
    ofJson (.record members) = .obj (keyed (formed ofJson members)) := by
  rw [Json.record, ofJson, membersOfJson_eq]
  rfl

theorem lt_of_natural? {bits n : Nat} {s : Source} (h : s.natural? bits = some n) :
    n < 1 <<< bits := by
  cases s with
  | num m =>
      cases m with
      | whole m =>
          rw [natural?] at h
          split at h
          · cases h
            omega
          · cases h
      | real d => cases h
  | _ => cases h

theorem ofJson_eq_null_iff {v : Json} : ofJson v = .null ↔ v = .null := by
  cases v <;> simp [ofJson]

theorem openFields?_record {names : List String} {values : List (Option Json)}
    {extra : Dict String Json} (hnames : names.Nodup) (hextra : ∀ key ∈ extra.keys, key ∉ names) :
    openFields? names (ofJson (.record (slots names values ++ kept extra))) =
      some (.written ofJson names values extra) := by
  rw [ofJson_record, openFields?_formed hnames hextra]

theorem fields?_record {names : List String} {values : List (Option Json)} (hnames : names.Nodup) :
    fields? names (ofJson (.record (slots names values))) =
      some (.written ofJson names values .empty) := by
  have hopen := @openFields?_record names values .empty hnames (by simp [Dict.keys, Dict.empty])
  rw [show kept .empty = [] from rfl, List.append_nil, ofJson_record] at hopen
  rw [ofJson_record, fields?_obj, hopen]

theorem itemsToJson?_eq (items : List Source) : itemsToJson? items = items.mapM toJson? := by
  induction items with
  | nil => rfl
  | cons item rest ih =>
      rw [itemsToJson?, ih, List.mapM_cons]

theorem membersToJson?_eq (seen : Dict String Json) (members : List (Option String × Source)) :
    membersToJson? seen members = collect? toJson? seen members := by
  induction members generalizing seen with
  | nil => rfl
  | cons member rest ih =>
      obtain ⟨key, value⟩ := member
      simp only [membersToJson?, collect?, ih]

section Lists

variable {α : Type} {read : Source → Option α}

theorem mapM_eq_some_of_forall {β : Type} {step : β → Option α} {image : α → β} {items : List α}
    (h : ∀ a ∈ items, step (image a) = some a) : (items.map image).mapM step = some items := by
  induction items with
  | nil => rfl
  | cons a rest ih =>
      rw [List.map_cons, List.mapM_cons, h a (List.mem_cons_self ..),
        ih fun b hb => h b (List.mem_cons_of_mem _ hb)]
      rfl

theorem exists_of_mapM_eq_some {β : Type} {step : β → Option α} {items : List β} {as : List α}
    (h : items.mapM step = some as) : ∀ a ∈ as, ∃ b ∈ items, step b = some a := by
  induction items generalizing as with
  | nil =>
      cases h
      simp
  | cons b rest ih =>
      rw [List.mapM_cons] at h
      simp only [Option.bind_eq_bind, Option.bind_eq_some_iff] at h
      obtain ⟨a, ha, others, hothers, h⟩ := h
      cases h
      intro c hc
      rcases List.mem_cons.mp hc with rfl | hc
      · exact ⟨b, List.mem_cons_self .., ha⟩
      · obtain ⟨b', hb', hc⟩ := ih hothers c hc
        exact ⟨b', List.mem_cons_of_mem _ hb', hc⟩

/-- Entries that are collected one by one. -/
theorem collect?_keyed (form : α → Source) {entries : List (String × α)}
    (h : ∀ entry ∈ entries, read (form entry.2) = some entry.2) (seen : Dict String α) :
    collect? read seen (keyed (entries.map fun entry => (entry.1, form entry.2))) =
      some (seen.insertAll entries) := by
  induction entries generalizing seen with
  | nil => rfl
  | cons entry rest ih =>
      have hrest := ih (fun other hother => h other (List.mem_cons_of_mem _ hother))
        (seen.insert entry.1 entry.2)
      simp only [keyed, List.map_cons, collect?, Option.bind_eq_bind, Option.bind_some,
        h entry (List.mem_cons_self ..)] at hrest ⊢
      exact hrest

theorem mem_of_collect? {seen d : Dict String α} {members : List (Option String × Source)}
    (h : collect? read seen members = some d) :
    ∀ entry ∈ d.entries, entry ∈ seen.entries ∨
      ∃ s, (some entry.1, s) ∈ members ∧ read s = some entry.2 := by
  induction members generalizing seen with
  | nil =>
      cases h
      exact fun entry hentry => .inl hentry
  | cons member rest ih =>
      obtain ⟨key, s⟩ := member
      simp only [collect?, Option.bind_eq_bind, Option.bind_eq_some_iff] at h
      obtain ⟨key, rfl, value, hvalue, h⟩ := h
      intro entry hentry
      rcases ih h entry hentry with hseen | ⟨s', hs', hread⟩
      · rcases Ascending.mem_put hseen with rfl | hseen
        · exact .inr ⟨s, List.mem_cons_self .., hvalue⟩
        · exact .inl hseen
      · exact .inr ⟨s', List.mem_cons_of_mem _ hs', hread⟩

end Lists

mutual
/-- A value that was read is written in a form that is read as the same value. -/
theorem toJson?_ofJson {s : Source} {v : Json} (h : s.toJson? = some v) :
    (ofJson v).toJson? = some v := by
  match s with
  | .null | .bool _ | .num _ | .str _ =>
      cases h
      rfl
  | .arr items =>
      obtain ⟨values, hvalues, rfl⟩ := Option.map_eq_some_iff.mp h
      rw [ofJson, toJson?, itemsToJson?_eq, itemsOfJson_eq,
        mapM_eq_some_of_forall (itemsToJson?_ofJson hvalues)]
      rfl
  | .obj members =>
      obtain ⟨d, hd, rfl⟩ := Option.map_eq_some_iff.mp h
      have hvalues := membersToJson?_ofJson hd fun entry hentry => absurd hentry List.not_mem_nil
      rw [Json.ofDict, ofJson, toJson?, membersToJson?_eq, membersOfJson_eq,
        collect?_keyed ofJson hvalues,
        show Dict.empty.insertAll d.entries = d from d.ofList_entries]
      rfl
  | .unreadable => cases h

theorem itemsToJson?_ofJson {items : List Source} {values : List Json}
    (h : itemsToJson? items = some values) : ∀ v ∈ values, (ofJson v).toJson? = some v := by
  match items with
  | [] =>
      cases h
      simp
  | item :: rest =>
      simp only [itemsToJson?, Option.bind_eq_bind, Option.bind_eq_some_iff] at h
      obtain ⟨v, hv, others, hothers, h⟩ := h
      cases h
      intro w hw
      rcases List.mem_cons.mp hw with rfl | hw
      · exact toJson?_ofJson hv
      · exact itemsToJson?_ofJson hothers w hw

theorem membersToJson?_ofJson {members : List (Option String × Source)}
    {seen d : Dict String Json} (h : membersToJson? seen members = some d)
    (hseen : ∀ entry ∈ seen.entries, (ofJson entry.2).toJson? = some entry.2) :
    ∀ entry ∈ d.entries, (ofJson entry.2).toJson? = some entry.2 := by
  match members with
  | [] =>
      cases h
      exact hseen
  | (key, s) :: rest =>
      simp only [membersToJson?, Option.bind_eq_bind, Option.bind_eq_some_iff] at h
      obtain ⟨key, -, v, hv, h⟩ := h
      refine membersToJson?_ofJson h fun entry hentry => ?_
      rcases Ascending.mem_put hentry with rfl | hentry
      · exact toJson?_ofJson hv
      · exact hseen entry hentry
end

end Source

namespace Fields

/-- A field that may be left out or be `null`, as it is found. -/
def orNone? {α : Type} (read : Source → Option α) : Option Source → Option (Option α)
  | none | some .null => some none
  | some s => (read s).map some

theorem orNone?_some {α : Type} {read : Source → Option α} {s : Source} (h : s ≠ .null) :
    orNone? read (some s) = (read s).map some := by
  unfold orNone?
  split
  · rename_i heq
    cases heq
  · rename_i heq
    cases heq
    exact absurd rfl h
  · rename_i heq
    cases heq
    rfl

section Found

variable {α : Type} {read : Source → Option α} {f : Fields} {name : String}

theorem optional?_eq (f : Fields) (name : String) (read : Source → Option α) :
    f.optional? name read = orNone? read (f.find? name) := rfl

theorem exists_of_optional? {a : α} (h : f.optional? name read = some (some a)) :
    ∃ s, s ≠ .null ∧ read s = some a := by
  unfold optional? at h
  split at h
  · cases h
  · cases h
  · rename_i s hnull _
    obtain ⟨_, hs, heq⟩ := Option.map_eq_some_iff.mp h
    cases heq
    exact ⟨s, hnull, hs⟩

theorem eq_or_exists_of_given? {a default : α} (h : f.given? name default read = some a) :
    a = default ∨ ∃ s, read s = some a := by
  unfold given? at h
  split at h
  · exact .inl (Option.some.inj h).symm
  · exact .inr ⟨_, h⟩

theorem exists_of_given?_list {as : List α}
    (h : f.given? name [] (Source.list? read) = some as) : ∀ a ∈ as, ∃ s, read s = some a := by
  intro a ha
  rcases eq_or_exists_of_given? h with rfl | ⟨s, hs⟩
  · cases ha
  · cases s with
    | arr sources =>
        obtain ⟨s, -, hread⟩ := Source.exists_of_mapM_eq_some hs a ha
        exact ⟨s, hread⟩
    | _ => cases hs

end Found

end Fields

section Leaves

@[simp] theorem text?_ofJson (s : String) : (ofJson (.str s)).text? = some s := rfl

@[simp] theorem flag?_ofJson (b : Bool) : (ofJson (.bool b)).flag? = some b := rfl

theorem double?_eq_some {s : Source} {d : Binary64} (h : s.double? = some d) :
    ∃ n, s = .num n ∧ d = .finite n.toDouble := by
  cases s with
  | num n =>
      cases h
      exact ⟨n, rfl, rfl⟩
  | _ => cases h

theorem natural?_ofJson {bits n : Nat} (h : n < 1 <<< bits) :
    (ofJson (.natural n)).natural? bits = some n := by
  rw [Json.natural, ofJson, Source.natural?, if_pos (by omega), Int.toNat_natCast]

theorem list?_texts (items : List String) :
    (ofJson (.texts items)).list? Source.text? = some items := by
  rw [Json.texts, ofJson, Source.itemsOfJson_eq, List.map_map, Source.list?]
  exact Source.mapM_eq_some_of_forall fun _ _ => rfl

@[simp] theorem orNone?_text (o : Option String) :
    Fields.orNone? Source.text? (o.map (ofJson ∘ .str)) = some o := by
  cases o <;> rfl

end Leaves

namespace Rereads

variable {α : Type} {read : Source → Option α} {write : α → Json} {f : Fields} {name : String}

/-- What is read is finite, and so it is written as a number. -/
theorem double : Rereads Source.double? .double where
  reread := by
    intro s d h
    obtain ⟨n, rfl, rfl⟩ := double?_eq_some h
    rfl
  null_of_null := by
    intro s d h hnull
    obtain ⟨n, rfl, rfl⟩ := double?_eq_some h
    cases hnull

theorem natural (bits : Nat) : Rereads (Source.natural? bits) .natural where
  reread := fun _ _ h => natural?_ofJson (Source.lt_of_natural? h)
  null_of_null := by rintro _ _ _ ⟨⟩

theorem json : Rereads toJson? id where
  reread := fun _ _ h => Source.toJson?_ofJson h
  null_of_null := by
    intro s v h hnull
    cases hnull
    cases s with
    | null => rfl
    | arr items =>
        obtain ⟨_, -, h⟩ := Option.map_eq_some_iff.mp h
        cases h
    | obj members =>
        obtain ⟨_, -, h⟩ := Option.map_eq_some_iff.mp h
        cases h
    | _ => cases h

theorem list (h : Rereads read write) :
    Rereads (Source.list? read) fun items => .arr (items.map write) where
  reread := by
    intro s items hitems
    cases s with
    | arr sources =>
        rw [ofJson, Source.itemsOfJson_eq, List.map_map, Source.list?]
        refine Source.mapM_eq_some_of_forall fun a ha => ?_
        obtain ⟨s, -, hread⟩ := Source.exists_of_mapM_eq_some hitems a ha
        exact h.reread s a hread
    | _ => cases hitems
  null_of_null := by rintro _ _ _ ⟨⟩

theorem texts : Rereads (Source.list? Source.text?) .texts where
  reread := fun _ items _ => list?_texts items
  null_of_null := by rintro _ _ _ ⟨⟩

theorem dict (h : Rereads read write) :
    Rereads (Source.dict? read) fun d => .obj (d.entries.map fun e => (e.1, write e.2)) where
  reread := by
    intro s d hd
    cases s with
    | obj members =>
        have hvalues : ∀ entry ∈ d.entries, read (ofJson (write entry.2)) = some entry.2 := by
          intro entry hentry
          rcases Source.mem_of_collect? hd entry hentry with hempty | ⟨s, -, hread⟩
          · exact absurd hempty List.not_mem_nil
          · exact h.reread s _ hread
        rw [ofJson, Source.membersOfJson_eq, List.map_map, Source.dict?]
        exact (Source.collect?_keyed (fun a => ofJson (write a)) hvalues _).trans
          (congrArg some d.ofList_entries)
    | _ => cases hd
  null_of_null := by rintro _ _ _ ⟨⟩

theorem jsonDict : Rereads (Source.dict? toJson?) .ofDict := by
  have h := json.dict
  simp only [id_eq, List.map_id'] at h
  exact h

theorem required (h : Rereads read write) {a : α} (hread : f.required? name read = some a) :
    read (ofJson (write a)) = some a := by
  obtain ⟨s, -, hs⟩ := Option.bind_eq_some_iff.mp hread
  exact h.reread s a hs

theorem given (h : Rereads read write) {a default : α}
    (hdefault : read (ofJson (write default)) = some default)
    (hread : f.given? name default read = some a) : read (ofJson (write a)) = some a := by
  rcases Fields.eq_or_exists_of_given? hread with rfl | ⟨s, hs⟩
  · exact hdefault
  · exact h.reread s a hs

theorem optional (h : Rereads read write) {o : Option α} (hread : f.optional? name read = some o) :
    Fields.orNone? read (o.map (ofJson ∘ write)) = some o := by
  cases o with
  | none => rfl
  | some a =>
      obtain ⟨s, hnull, hs⟩ := Fields.exists_of_optional? hread
      have hvalue : ofJson (write a) ≠ .null :=
        fun heq => hnull (h.null_of_null s a hs (Source.ofJson_eq_null_iff.mp heq))
      rw [Option.map_some, Function.comp_apply, Fields.orNone?_some hvalue, h.reread s a hs]
      rfl

theorem optional_json {o : Option Json} (hread : f.optional? name toJson? = some o) :
    Fields.orNone? toJson? (o.map ofJson) = some o :=
  json.optional hread

/-- What a record keeps is kept again, and none of it is declared. -/
theorem others {names : List String} {s : Source} {extra : Dict String Json}
    (hf : s.openFields? names = some f) (hread : f.others? = some extra) :
    (∀ key ∈ extra.keys, key ∉ names) ∧
      ∀ values, (Fields.written ofJson names values extra).others? = some extra := by
  constructor
  · intro key hkey
    obtain ⟨entry, hentry, rfl⟩ := List.mem_map.mp hkey
    rcases Source.mem_of_collect? hread entry hentry with hempty | ⟨s', hs', -⟩
    · exact absurd hempty List.not_mem_nil
    · cases s with
      | obj members =>
          obtain ⟨named, -, -, rfl⟩ := Source.openFields?_obj_eq_some_iff.mp hf
          obtain ⟨field, hfield, heq⟩ := List.mem_map.mp hs'
          rw [Prod.mk.injEq, Option.some.injEq] at heq
          have hother := (List.mem_filter.mp hfield).2
          rw [heq.1] at hother
          simpa using hother
      | _ => cases hf
  · intro values
    have hvalues : ∀ entry ∈ extra.entries, toJson? (ofJson entry.2) = some entry.2 := by
      intro entry hentry
      rcases Source.mem_of_collect? hread entry hentry with hempty | ⟨s', -, hs'⟩
      · exact absurd hempty List.not_mem_nil
      · exact Source.toJson?_ofJson hs'
    exact (Source.collect?_keyed ofJson hvalues _).trans (congrArg some extra.ofList_entries)

end Rereads

end NodeCanvas
