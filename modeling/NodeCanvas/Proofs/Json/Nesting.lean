import NodeCanvas.Proofs.Json.Building
import NodeCanvas.Proofs.Json.Rereading

namespace NodeCanvas

open Source (depthLimit reread toJson?)
open Json (slots slot? kept)

namespace Json

mutual
/-- How many arrays and objects are inside one another. -/
def depth : Json → ℕ
  | .arr items => itemsDepth items + 1
  | .obj members => membersDepth members + 1
  | .null | .bool _ | .num _ | .str _ => 0

def itemsDepth : List Json → ℕ
  | [] => 0
  | item :: rest => max item.depth (itemsDepth rest)

def membersDepth : List (String × Json) → ℕ
  | [] => 0
  | member :: rest => max member.2.depth (membersDepth rest)
end

/-- Inside so many arrays and objects, nothing of the value is nested too deeply. -/
def Within (level : ℕ) (v : Json) : Prop := level + v.depth < depthLimit

variable {level : ℕ}

@[simp] theorem within_null : null.Within level ↔ level < depthLimit := .rfl

@[simp] theorem within_bool (b : Bool) : (bool b).Within level ↔ level < depthLimit := .rfl

@[simp] theorem within_str (s : String) : (str s).Within level ↔ level < depthLimit := .rfl

@[simp] theorem within_double (d : Binary64) :
    (double d).Within level ↔ level < depthLimit := by
  cases d <;> rfl

@[simp] theorem within_natural (n : ℕ) : (natural n).Within level ↔ level < depthLimit := .rfl

theorem within_arr (items : List Json) :
    (arr items).Within level ↔
      level + 1 < depthLimit ∧ ∀ item ∈ items, item.Within (level + 1) := by
  have hitems : ∀ items : List Json, level + 1 + itemsDepth items < depthLimit ↔
      level + 1 < depthLimit ∧ ∀ item ∈ items, item.Within (level + 1) := by
    intro items
    induction items with
    | nil => simp [itemsDepth]
    | cons item rest ih =>
        rw [List.forall_mem_cons, and_left_comm, ← ih, Within, itemsDepth]
        omega
  rw [← hitems, Within, depth]
  omega

theorem within_obj (members : List (String × Json)) :
    (obj members).Within level ↔
      level + 1 < depthLimit ∧ ∀ member ∈ members, member.2.Within (level + 1) := by
  have hmembers : ∀ members : List (String × Json),
      level + 1 + membersDepth members < depthLimit ↔
        level + 1 < depthLimit ∧ ∀ member ∈ members, member.2.Within (level + 1) := by
    intro members
    induction members with
    | nil => simp [membersDepth]
    | cons member rest ih =>
        rw [List.forall_mem_cons, and_left_comm, ← ih, Within, membersDepth]
        omega
  rw [← hmembers, Within, depth]
  omega

section Records

variable {names : List String} {values : List (Option Json)}

/-- A record is within its level if what it gives its names, and what it keeps, is within the
next one. -/
theorem within_record (hlength : values.length = names.length) (extra : Dict String Json) :
    (record (slots names values ++ kept extra)).Within level ↔ level + 1 < depthLimit ∧
      (∀ value ∈ values, ∀ v, value = some v → v.Within (level + 1)) ∧
      ∀ entry ∈ extra.entries, entry.2.Within (level + 1) := by
  rw [record, within_obj, forall_mem_record hlength]

theorem within_closedRecord (hlength : values.length = names.length) :
    (record (slots names values)).Within level ↔ level + 1 < depthLimit ∧
      ∀ value ∈ values, ∀ v, value = some v → v.Within (level + 1) := by
  have hrecord := @within_record level names values hlength .empty
  simpa [kept, Dict.empty] using hrecord

end Records

end Json

namespace Source

variable {level : ℕ}

theorem rereadItems_eq (items : List Json) :
    rereadItems level items = items.map (reread level) := by
  induction items with
  | nil => rfl
  | cons item rest ih => rw [rereadItems, ih, List.map_cons]

theorem rereadMembers_eq (members : List (String × Json)) :
    rereadMembers level members = keyed (members.map fun m => (m.1, reread level m.2)) := by
  induction members with
  | nil => rfl
  | cons member rest ih =>
      obtain ⟨key, value⟩ := member
      rw [rereadMembers, ih]
      rfl

theorem reread_arr (items : List Json) :
    reread level (.arr items) =
      if level + 1 < depthLimit then .arr (items.map (reread (level + 1))) else .unreadable := by
  simp only [reread, rereadItems_eq, ← not_lt, ite_not]

theorem reread_obj (members : List (String × Json)) :
    reread level (.obj members) =
      if level + 1 < depthLimit then
        .obj (keyed (members.map fun m => (m.1, reread (level + 1) m.2)))
      else .unreadable := by
  simp only [reread, rereadMembers_eq, ← not_lt, ite_not]

theorem reread_record (members : List (Option (String × Json))) :
    reread level (.record members) =
      if level + 1 < depthLimit then .obj (keyed (formed (reread (level + 1)) members))
      else .unreadable := by
  rw [Json.record, reread_obj]
  rfl

theorem reread_eq_null {v : Json} (h : reread level v = .null) : v = .null := by
  cases v with
  | arr items =>
      rw [reread_arr] at h
      split at h <;> cases h
  | obj members =>
      rw [reread_obj] at h
      split at h <;> cases h
  | null => rfl
  | _ => cases h

section Fields

variable {names : List String} {values : List (Option Json)}

theorem openFields?_reread {extra : Dict String Json} (hnames : names.Nodup)
    (hextra : ∀ key ∈ extra.keys, key ∉ names) :
    openFields? names (reread level (.record (slots names values ++ kept extra))) =
      if level + 1 < depthLimit then some (.written (reread (level + 1)) names values extra)
      else none := by
  rw [reread_record]
  split
  · exact openFields?_formed hnames hextra
  · rfl

theorem fields?_reread (hnames : names.Nodup) :
    fields? names (reread level (.record (slots names values))) =
      if level + 1 < depthLimit then some (.written (reread (level + 1)) names values .empty)
      else none := by
  have hopen := @openFields?_reread level names values .empty hnames
    (by simp [Dict.keys, Dict.empty])
  rw [show kept .empty = [] from rfl, List.append_nil, reread_record] at hopen
  rw [← hopen, reread_record]
  split <;> rfl

theorem eq_of_fields?_reread (hnames : names.Nodup) {f : Fields}
    (h : fields? names (reread level (.record (slots names values))) = some f) :
    f = .written (reread (level + 1)) names values .empty := by
  rw [fields?_reread hnames] at h
  split at h
  · exact (Option.some.inj h).symm
  · cases h

end Fields

theorem isSome_mapM {α β : Type} {read : α → Option β} (items : List α) :
    (items.mapM read).isSome ↔ ∀ item ∈ items, (read item).isSome := by
  induction items with
  | nil => simp
  | cons item rest ih =>
      rw [List.forall_mem_cons, ← ih, List.mapM_cons]
      cases read item <;> cases rest.mapM read <;> simp

theorem isSome_collect? {α : Type} {read : Source → Option α} (seen : Dict String α)
    (members : List (String × Source)) :
    (collect? read seen (keyed members)).isSome ↔ ∀ member ∈ members, (read member.2).isSome := by
  induction members generalizing seen with
  | nil => simp [keyed, collect?]
  | cons member rest ih =>
      rw [List.forall_mem_cons]
      cases hread : read member.2 with
      | none => simp [keyed, collect?, hread]
      | some value =>
          have hrest := ih (seen.insert member.1 value)
          simpa [keyed, collect?, hread] using hrest

mutual
/-- A value is read from its text just if nothing in it is nested too deeply there. -/
theorem isSome_toJson? {level : ℕ} (hlevel : level < depthLimit) :
    (v : Json) → ((toJson? (reread level v)).isSome ↔ v.Within level)
  | .null | .bool _ | .num _ | .str _ => iff_of_true rfl hlevel
  | .arr items => by
      rw [Json.within_arr, reread_arr]
      by_cases hroom : level + 1 < depthLimit
      · rw [if_pos hroom, toJson?, Option.isSome_map, itemsToJson?_eq, isSome_mapM,
          List.forall_mem_map, and_iff_right hroom]
        exact forall₂_congr (isSome_items hroom items)
      · simp [hroom, toJson?]
  | .obj members => by
      rw [Json.within_obj, reread_obj]
      by_cases hroom : level + 1 < depthLimit
      · rw [if_pos hroom, toJson?, Option.isSome_map, membersToJson?_eq, isSome_collect?,
          List.forall_mem_map, and_iff_right hroom]
        exact forall₂_congr (isSome_members hroom members)
      · simp [hroom, toJson?]

theorem isSome_items {level : ℕ} (hlevel : level < depthLimit) :
    (items : List Json) → ∀ item ∈ items,
      ((toJson? (reread level item)).isSome ↔ item.Within level)
  | [] => by simp
  | item :: rest => by
      rw [List.forall_mem_cons]
      exact ⟨isSome_toJson? hlevel item, isSome_items hlevel rest⟩

theorem isSome_members {level : ℕ} (hlevel : level < depthLimit) :
    (members : List (String × Json)) → ∀ member ∈ members,
      ((toJson? (reread level member.2)).isSome ↔ member.2.Within level)
  | [] => by simp
  | (key, value) :: rest => by
      rw [List.forall_mem_cons]
      exact ⟨isSome_toJson? hlevel value, isSome_members hlevel rest⟩
end

end Source

/-- What is written is read again from its text, unless something in it is nested too deeply
there. -/
def Nests {α : Type} (sound : α → Prop) (read : Source → Option α) (write : α → Json) : Prop :=
  ∀ a level, sound a → level < depthLimit →
    ((read (reread level (write a))).isSome ↔ (write a).Within level)

namespace Nests

variable {α : Type} {sound : α → Prop} {read : Source → Option α} {write : α → Json}

section Records

variable (names : List String) (values : α → List (Option Json))

/-- A record that keeps what it does not declare. -/
theorem of_open (extra : α → Dict String Json) (hnames : names.Nodup)
    (hlength : ∀ a, (values a).length = names.length)
    (hwrite : ∀ a, write a = .record (slots names (values a) ++ kept (extra a)))
    (hkeys : ∀ a, sound a → ∀ key ∈ (extra a).keys, key ∉ names)
    (hunreadable : read .unreadable = none)
    (h : ∀ a level s, sound a → level < depthLimit →
      s.openFields? names = some (.written (reread level) names (values a) (extra a)) →
      ((read s).isSome ↔ (∀ value ∈ values a, ∀ v, value = some v → v.Within level) ∧
        ∀ entry ∈ (extra a).entries, entry.2.Within level)) :
    Nests sound read write := by
  intro a level hsound hlevel
  rw [hwrite, Json.within_record (hlength a)]
  by_cases hroom : level + 1 < depthLimit
  · rw [and_iff_right hroom]
    refine h a _ _ hsound hroom ?_
    rw [Source.openFields?_reread hnames (hkeys a hsound), if_pos hroom]
  · simp [Source.reread_record, hroom, hunreadable]

/-- A record that skips what it does not declare. -/
theorem of_closed (hnames : names.Nodup) (hlength : ∀ a, (values a).length = names.length)
    (hwrite : ∀ a, write a = .record (slots names (values a)))
    (hunreadable : read .unreadable = none)
    (h : ∀ a level s, sound a → level < depthLimit →
      s.fields? names = some (.written (reread level) names (values a) .empty) →
      ((read s).isSome ↔ ∀ value ∈ values a, ∀ v, value = some v → v.Within level)) :
    Nests sound read write := by
  intro a level hsound hlevel
  rw [hwrite, Json.within_closedRecord (hlength a)]
  by_cases hroom : level + 1 < depthLimit
  · rw [and_iff_right hroom]
    refine h a _ _ hsound hroom ?_
    rw [Source.fields?_reread hnames, if_pos hroom]
  · simp [Source.reread_record, hroom, hunreadable]

end Records

theorem list (h : Nests sound read write) :
    Nests (fun as => ∀ a ∈ as, sound a) (Source.list? read) fun as => .arr (as.map write) := by
  intro as level hsound hlevel
  rw [Json.within_arr, Source.reread_arr]
  by_cases hroom : level + 1 < depthLimit
  · rw [if_pos hroom, Source.list?, Source.isSome_mapM, List.forall_mem_map, List.forall_mem_map,
      and_iff_right hroom, List.forall_mem_map]
    exact forall₂_congr fun a ha => h a (level + 1) (hsound a ha) hroom
  · simp [hroom, Source.list?]

theorem text : Nests (fun _ => True) Source.text? .str :=
  fun _ _ _ hlevel => iff_of_true rfl hlevel

theorem texts : Nests (fun _ => True) (Source.list? Source.text?) .texts :=
  fun texts level _ hlevel => text.list texts level (fun _ _ => trivial) hlevel

theorem natural (bits : ℕ) : Nests (· < 1 <<< bits) (Source.natural? bits) .natural := by
  intro n level hn hlevel
  have hsame : reread level (.natural n) = Source.ofJson (.natural n) := rfl
  rw [hsame, natural?_ofJson hn]
  exact iff_of_true rfl hlevel

theorem json : Nests (fun _ => True) toJson? id :=
  fun v _ _ hlevel => Source.isSome_toJson? hlevel v

theorem isSome_dict? {level : ℕ} (hlevel : level < depthLimit) (d : Dict String Json) :
    ((reread level (.ofDict d)).dict? toJson?).isSome ↔ (Json.ofDict d).Within level := by
  rw [← Source.isSome_toJson? hlevel, Json.ofDict, Source.reread_obj]
  by_cases hroom : level + 1 < depthLimit
  · rw [if_pos hroom, toJson?, Option.isSome_map, Source.membersToJson?_eq]
    rfl
  · rw [if_neg hroom]
    rfl

section Found

variable {level : ℕ}

theorem optional (h : Nests sound read write) (hlevel : level < depthLimit) {o : Option α}
    (hsound : ∀ a, o = some a → sound a) :
    (Fields.orNone? read (o.map (reread level ∘ write))).isSome ↔
      ∀ a, o = some a → (write a).Within level := by
  cases o with
  | none => simp [Fields.orNone?]
  | some a =>
      have hvalue := h a level (hsound a rfl) hlevel
      by_cases hnull : reread level (write a) = .null
      · have hwithin : (write a).Within level := by
          rw [Source.reread_eq_null hnull]
          exact hlevel
        simp [hnull, hwithin, Fields.orNone?]
      · simp [Fields.orNone?_some hnull, hvalue]

theorem optional_json (hlevel : level < depthLimit) (o : Option Json) :
    (Fields.orNone? toJson? (o.map (reread level))).isSome ↔ ∀ v, o = some v → v.Within level :=
  json.optional hlevel fun _ _ => trivial

theorem others (hlevel : level < depthLimit) (names : List String) (values : List (Option Json))
    (extra : Dict String Json) :
    (Fields.written (reread level) names values extra).others?.isSome ↔
      ∀ entry ∈ extra.entries, entry.2.Within level := by
  refine (Source.isSome_collect? .empty _).trans ?_
  simp only [Fields.written, List.forall_mem_map]
  exact forall₂_congr fun entry _ => Source.isSome_toJson? hlevel entry.2

end Found

end Nests

/-- Fields that are read one after the other, from the outside in. -/
theorem Fields.isSome_read_iff {α β : Type} {o : Option α} {next : α → Option β} :
    (o >>= next).isSome ↔ ∃ a, o = some a ∧ (next a).isSome :=
  isSome_bind_iff

section Leaves

variable {level : ℕ}

@[simp] theorem text?_reread (s : String) : (reread level (.str s)).text? = some s := rfl

@[simp] theorem flag?_reread (b : Bool) : (reread level (.bool b)).flag? = some b := rfl

/-- What is not finite is written as `null`, which is no number. -/
@[simp] theorem isSome_double?_reread (d : Binary64) :
    (reread level (.double d)).double?.isSome = d.isFinite := by
  cases d <;> rfl

@[simp] theorem isSome_orNone?_text (o : Option String) :
    (Fields.orNone? Source.text? (o.map (reread level ∘ .str))).isSome = true := by
  cases o <;> rfl

/-- Where nothing may stand, `null` is read as nothing. -/
@[simp] theorem isSome_orNone?_double (o : Option Binary64) :
    (Fields.orNone? Source.double? (o.map (reread level ∘ .double))).isSome = true := by
  cases o with
  | none => rfl
  | some d => cases d <;> rfl

end Leaves

end NodeCanvas
