import NodeCanvas.Proofs.Dict
import NodeCanvas.NodeType.Written

namespace NodeCanvas

def Source.keyed (members : List (String × Source)) : List (Option String × Source) :=
  members.map fun m => (some m.1, m.2)

namespace Fields

def ofMembers (names : List String) (members : List (String × Source)) : Fields where
  declared := members.filter fun m => names.contains m.1
  others := members.filter fun m => !names.contains m.1
  byPlace := false

theorem find?_ofMembers_eq_some_iff {names : List String} {members : List (String × Source)}
    (h : ((ofMembers names members).declared.map (·.1)).Nodup) {name : String}
    (hname : name ∈ names) {s : Source} :
    (ofMembers names members).find? name = some s ↔ (name, s) ∈ members := by
  have hdeclared : (name, s) ∈ (ofMembers names members).declared ↔ (name, s) ∈ members := by
    simp [ofMembers, List.mem_filter, hname]
  rw [← hdeclared, find?]
  generalize (ofMembers names members).declared = declared at h
  induction declared with
  | nil => simp
  | cons field rest ih =>
      rw [List.map_cons, List.nodup_cons] at h
      rw [List.find?_cons, List.mem_cons]
      by_cases hfield : field.1 = name
      · have hrest : (name, s) ∉ rest := fun hmem =>
          h.1 (List.mem_map.mpr ⟨(name, s), hmem, hfield.symm⟩)
        obtain ⟨key, value⟩ := field
        cases hfield
        simp [hrest, eq_comm]
      · have hne : (name, s) ≠ field := fun heq => hfield (congrArg Prod.fst heq.symm)
        have hkey : (field.1 == name) = false := beq_false_of_ne hfield
        rw [hkey, or_iff_right hne]
        exact ih h.2

section Found

variable {α β : Type} {f : Fields} {name : String} {read : Source → Option α}

/-- Fields that are read one after the other. To be applied from the outside in: what is read later
hangs on what was read before. -/
theorem bind_eq_some_iff {o : Option α} {next : α → Option β} {b : β} :
    (o >>= next) = some b ↔ ∃ a, o = some a ∧ next a = some b :=
  Option.bind_eq_some_iff

/-- Of fields that are read one after the other, each has to be readable. -/
theorem isSome_bind_iff {o : Option α} {next : α → Option β} :
    (o.bind next).isSome ↔ ∃ a, o = some a ∧ (next a).isSome := by
  cases o <;> simp

theorem isSome_required? :
    (f.required? name read).isSome ↔ ∃ s, f.find? name = some s ∧ (read s).isSome := by
  unfold required?
  cases f.find? name <;> simp

theorem isSome_given? {default : α} :
    (f.given? name default read).isSome ↔ ∀ s, f.find? name = some s → (read s).isSome := by
  unfold given?
  cases f.find? name <;> simp

theorem isSome_optional? :
    (f.optional? name read).isSome ↔
      ∀ s, f.find? name = some s → s = .null ∨ (read s).isSome := by
  unfold optional?
  split
  · rename_i hnone
    simp [hnone]
  · rename_i hnull
    simp [hnull]
  · rename_i s hnull hfound
    have hvalue : s ≠ .null := hnull
    simp [hfound, hvalue]

theorem nullable?_of_named (h : f.byPlace = false) :
    f.nullable? name read = f.optional? name read := by
  simp [nullable?, h]

end Found

end Fields

namespace Source

theorem exists_keyed_cons {key : String} {s : Source} {rest : List (Option String × Source)}
    {P : List (String × Source) → Prop} :
    (∃ named, (some key, s) :: rest = keyed named ∧ P named) ↔
      ∃ named, rest = keyed named ∧ P ((key, s) :: named) := by
  constructor
  · rintro ⟨named, hnamed, hP⟩
    cases named with
    | nil => cases hnamed
    | cons head named =>
        cases hnamed
        exact ⟨named, rfl, hP⟩
  · rintro ⟨named, rfl, hP⟩
    exact ⟨(key, s) :: named, rfl, hP⟩

theorem sortMembers?_eq_some_iff {names : List String}
    {members : List (Option String × Source)} {found f : Fields}
    (h : (found.declared.map (·.1)).Nodup) :
    sortMembers? names found members = some f ↔ ∃ named, members = keyed named ∧
      ((found.declared ++ (Fields.ofMembers names named).declared).map (·.1)).Nodup ∧
      f = { found with
        declared := found.declared ++ (Fields.ofMembers names named).declared
        others := found.others ++ (Fields.ofMembers names named).others } := by
  induction members generalizing found with
  | nil =>
      simp only [sortMembers?, Option.some.injEq]
      constructor
      · rintro rfl
        exact ⟨[], rfl, by simpa [Fields.ofMembers] using h, by simp [Fields.ofMembers]⟩
      · rintro ⟨named, hnamed, -, rfl⟩
        cases List.map_eq_nil_iff.mp hnamed.symm
        simp [Fields.ofMembers]
  | cons member rest ih =>
      obtain ⟨key, s⟩ := member
      cases key with
      | none =>
          simp only [sortMembers?, reduceCtorEq, false_iff, not_exists, not_and]
          intro named hnamed
          cases named <;> cases hnamed
      | some key =>
          rw [exists_keyed_cons, sortMembers?]
          by_cases hkey : names.contains key = true
          · rw [if_pos hkey]
            have hmem : key ∈ names := List.contains_iff_mem.mp hkey
            by_cases hseen : (found.declared.any fun field => field.1 == key) = true
            · rw [if_pos hseen]
              have hold : key ∈ found.declared.map (·.1) := by simpa using hseen
              simp only [reduceCtorEq, false_iff, not_exists, not_and]
              intro named _ hnodup
              rw [List.map_append, List.nodup_append] at hnodup
              refine absurd rfl (hnodup.2.2 key hold key ?_)
              simp [Fields.ofMembers, hmem]
            · rw [if_neg hseen]
              have hnew : key ∉ found.declared.map (·.1) := by simpa using hseen
              rw [ih]
              · simp [Fields.ofMembers, hmem]
              · simp only [List.map_append, List.map_cons, List.map_nil]
                exact List.nodup_append.mpr ⟨h, List.nodup_singleton key, by
                  rintro a ha b hb rfl
                  rw [List.mem_singleton] at hb
                  exact hnew (hb ▸ ha)⟩
          · rw [if_neg hkey, ih (by exact h)]
            have hmem : key ∉ names := fun hmem => hkey (List.contains_iff_mem.mpr hmem)
            simp [Fields.ofMembers, hmem]

/-- An object is read as a record just if its keys are readable and none that is declared is
repeated. -/
theorem openFields?_obj_eq_some_iff {names : List String}
    {members : List (Option String × Source)} {f : Fields} :
    openFields? names (.obj members) = some f ↔ ∃ named, members = keyed named ∧
      ((Fields.ofMembers names named).declared.map (·.1)).Nodup ∧
      f = Fields.ofMembers names named := by
  rw [openFields?, sortMembers?_eq_some_iff (by exact List.nodup_nil)]
  rfl

theorem fields?_obj (names : List String) (members : List (Option String × Source)) :
    fields? names (.obj members) = openFields? names (.obj members) := rfl

theorem byPlace_of_openFields? {names : List String} {s : Source} {f : Fields}
    (h : s.openFields? names = some f) : f.byPlace = false := by
  cases s with
  | obj members =>
      obtain ⟨_, -, -, rfl⟩ := openFields?_obj_eq_some_iff.mp h
      rfl
  | _ => cases h

end Source

namespace Json

def slots : List String → List (Option Json) → List (Option (String × Json))
  | name :: names, value :: values => memberIf? name value id :: slots names values
  | _, _ => []

/-- The value that a record has under a name. -/
def slot? (name : String) : List String → List (Option Json) → Option Json
  | other :: names, value :: values => if other = name then value else slot? name names values
  | _, _ => none

theorem memberIf?_map {α : Type} (key : String) (value : Option α) (write : α → Json) :
    memberIf? key (value.map write) id = memberIf? key value write := by
  cases value <;> rfl

/-- The members of a record are what it gives its names, and what it keeps. -/
theorem forall_mem_record {P : Json → Prop} {names : List String} {values : List (Option Json)}
    (hlength : values.length = names.length) (extra : Dict String Json) :
    (∀ member ∈ (slots names values ++ kept extra).filterMap id, P member.2) ↔
      (∀ value ∈ values, ∀ v, value = some v → P v) ∧ ∀ entry ∈ extra.entries, P entry.2 := by
  have hslots : (∀ member ∈ (slots names values).filterMap id, P member.2) ↔
      ∀ value ∈ values, ∀ v, value = some v → P v := by
    induction names generalizing values with
    | nil => simp [slots, List.length_eq_zero_iff.mp hlength]
    | cons name names ih =>
        cases values with
        | nil => cases hlength
        | cons value values =>
            rw [List.forall_mem_cons, ← ih (Nat.succ.inj hlength)]
            cases value <;> simp [slots, memberIf?]
  rw [List.filterMap_append, List.forall_mem_append, hslots]
  simp [kept]

end Json

open Json (slots slot? kept)

/-- The members that are given, each value in some form. -/
def Source.formed (form : Json → Source) (members : List (Option (String × Json))) :
    List (String × Source) :=
  (members.filterMap id).map fun m => (m.1, form m.2)

namespace Source

variable (form : Json → Source)

theorem formed_append (left right : List (Option (String × Json))) :
    formed form (left ++ right) = formed form left ++ formed form right := by
  simp [formed]

theorem formed_kept (extra : Dict String Json) :
    formed form (kept extra) = extra.entries.map fun entry => (entry.1, form entry.2) := by
  simp [formed, kept]

theorem formed_slots_cons (name : String) (names : List String) (value : Option Json)
    (values : List (Option Json)) :
    formed form (slots (name :: names) (value :: values)) =
      (value.map fun v => (name, form v)).toList ++ formed form (slots names values) := by
  cases value <;> simp [formed, slots, Json.memberIf?]

theorem keys_formed_slots (names : List String) (values : List (Option Json)) :
    ((formed form (slots names values)).map (·.1)).Sublist names := by
  induction names generalizing values with
  | nil => simp [slots, formed]
  | cons name names ih =>
      cases values with
      | nil => simp [slots, formed]
      | cons value values =>
          rw [formed_slots_cons]
          cases value with
          | none => exact (ih values).cons name
          | some v => exact (ih values).cons_cons name

end Source

namespace Fields

def written (form : Json → Source) (names : List String) (values : List (Option Json))
    (extra : Dict String Json) : Fields where
  declared := Source.formed form (slots names values)
  others := extra.entries.map fun entry => (entry.1, form entry.2)
  byPlace := false

theorem find?_written {form : Json → Source} {names : List String} (h : names.Nodup)
    (values : List (Option Json)) (extra : Dict String Json) (name : String) :
    (written form names values extra).find? name = (slot? name names values).map form := by
  unfold written find?
  dsimp only
  induction names generalizing values with
  | nil => rfl
  | cons other names ih =>
      rw [List.nodup_cons] at h
      cases values with
      | nil => rfl
      | cons value values =>
          rw [Source.formed_slots_cons, slot?]
          have hrest := ih h.2 values
          split
          · rename_i heq
            subst heq
            have hnone : (Source.formed form (slots names values)).find?
                (fun field => field.1 == other) = none := by
              refine List.find?_eq_none.mpr fun field hfield heq => h.1 ?_
              rw [← beq_iff_eq.mp heq]
              exact (Source.keys_formed_slots form names values).subset
                (List.mem_map.mpr ⟨field, hfield, rfl⟩)
            cases value <;> simp [hnone]
          · rename_i hne
            cases value <;> simpa [hne] using hrest

/-- A record that was written is read with its values under their names, and with what was kept. -/
theorem ofMembers_formed {form : Json → Source} {names : List String}
    {values : List (Option Json)} {extra : Dict String Json}
    (hextra : ∀ key ∈ extra.keys, key ∉ names) :
    ofMembers names (Source.formed form (slots names values ++ kept extra)) =
      written form names values extra := by
  have hdeclared : ∀ m ∈ Source.formed form (slots names values),
      names.contains m.1 = true := by
    intro m hm
    exact List.contains_iff_mem.mpr ((Source.keys_formed_slots form names values).subset
      (List.mem_map.mpr ⟨m, hm, rfl⟩))
  have hothers : ∀ m ∈ Source.formed form (kept extra), ¬ names.contains m.1 = true := by
    intro m hm
    rw [Source.formed_kept] at hm
    obtain ⟨entry, hentry, rfl⟩ := List.mem_map.mp hm
    rw [List.contains_iff_mem]
    exact hextra entry.1 (List.mem_map.mpr ⟨entry, hentry, rfl⟩)
  unfold ofMembers written
  rw [Source.formed_append, List.filter_append, List.filter_append,
    List.filter_eq_self.mpr hdeclared, List.filter_eq_nil_iff.mpr hothers, List.append_nil,
    List.filter_eq_nil_iff.mpr (by simpa using hdeclared),
    List.filter_eq_self.mpr (by simpa using hothers), Source.formed_kept, List.nil_append]

end Fields

theorem Source.openFields?_formed {form : Json → Source} {names : List String}
    {values : List (Option Json)} {extra : Dict String Json} (hnames : names.Nodup)
    (hextra : ∀ key ∈ extra.keys, key ∉ names) :
    openFields? names (.obj (keyed (formed form (slots names values ++ kept extra)))) =
      some (.written form names values extra) := by
  rw [openFields?_obj_eq_some_iff]
  refine ⟨_, rfl, ?_, (Fields.ofMembers_formed hextra).symm⟩
  rw [Fields.ofMembers_formed hextra]
  exact hnames.sublist (keys_formed_slots form names values)

end NodeCanvas
