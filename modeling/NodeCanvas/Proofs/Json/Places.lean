import NodeCanvas.Proofs.Json.Rereading

namespace NodeCanvas

open Source (ofJson toJson?)
open Json (slots slot? kept)

inductive PathStep where
  /-- A field of a record with these names; `null` is no field. -/
  | field (names : List String) (name : String)
  | item (place : Nat)
  | entry (key : String)

namespace Source

/-- The last of the members under a key. -/
def lastMember? (key : String) : List (Option String × Source) → Option Source
  | [] => none
  | (name, member) :: rest =>
      (lastMember? key rest).or (if name = some key then some member else none)

def member? (key : String) : Source → Option Source
  | .obj members => lastMember? key members
  | _ => none

def present? : Source → Option Source
  | .null => none
  | s => some s

def step? (s : Source) : PathStep → Option Source
  | .field names name => ((s.fields? names).bind (·.find? name)).bind present?
  | .item place =>
      match s with
      | .arr items => items[place]?
      | _ => none
  | .entry key => s.member? key

def at? (s : Source) : List PathStep → Option Source
  | [] => some s
  | step :: rest => (s.step? step).bind (·.at? rest)

theorem at?_append (s : Source) (left right : List PathStep) :
    s.at? (left ++ right) = (s.at? left).bind (·.at? right) := by
  induction left generalizing s with
  | nil => rfl
  | cons step rest ih =>
      simp only [List.cons_append, at?, Option.bind_assoc]
      exact congrArg _ (funext fun part => ih part)

theorem at?_singleton (s : Source) (step : PathStep) : s.at? [step] = s.step? step :=
  Option.bind_fun_some _

theorem present?_eq_some_iff {s part : Source} :
    s.present? = some part ↔ s = part ∧ part ≠ .null := by
  cases s <;> simp [present?] <;> rintro rfl <;> simp

theorem step?_field_eq_some_iff {s part : Source} {names : List String} {name : String} :
    s.step? (.field names name) = some part ↔
      ∃ f, s.fields? names = some f ∧ f.find? name = some part ∧ part ≠ .null := by
  simp only [step?, Option.bind_eq_some_iff, present?_eq_some_iff]
  constructor
  · rintro ⟨_, ⟨f, hf, hfound⟩, rfl, hvalue⟩
    exact ⟨f, hf, hfound, hvalue⟩
  · rintro ⟨f, hf, hfound, hvalue⟩
    exact ⟨part, ⟨f, hf, hfound⟩, rfl, hvalue⟩

theorem fields?_of_openFields? {s : Source} {names : List String} {f : Fields}
    (h : s.openFields? names = some f) : s.fields? names = some f := by
  cases s with
  | obj members => exact h
  | _ => cases h

section LastMember

variable {key : String}

theorem lastMember?_append (left right : List (Option String × Source)) :
    lastMember? key (left ++ right) = (lastMember? key right).or (lastMember? key left) := by
  induction left with
  | nil => simp [lastMember?]
  | cons member rest ih =>
      obtain ⟨name, s⟩ := member
      rw [List.cons_append, lastMember?, ih, lastMember?, Option.or_assoc]

theorem lastMember?_eq_none {members : List (Option String × Source)}
    (h : ∀ m ∈ members, m.1 ≠ some key) : lastMember? key members = none := by
  induction members with
  | nil => rfl
  | cons member rest ih =>
      obtain ⟨name, s⟩ := member
      have hname : name ≠ some key := h _ (List.mem_cons_self ..)
      rw [lastMember?, ih fun m hm => h m (List.mem_cons_of_mem _ hm), if_neg hname]
      rfl

/-- Members of other keys do not matter. -/
theorem lastMember?_keyed_filter {named : List (String × Source)} {p : String × Source → Bool}
    (h : ∀ s, p (key, s) = true) :
    lastMember? key (keyed (named.filter p)) = lastMember? key (keyed named) := by
  induction named with
  | nil => rfl
  | cons member rest ih =>
      obtain ⟨name, s⟩ := member
      rw [List.filter_cons]
      split
      · simpa [keyed, lastMember?] using congrArg (Option.or · _) ih
      · rename_i hp
        have hname : name ≠ key := by
          rintro rfl
          exact hp (h s)
        rw [ih]
        simp [keyed, lastMember?, hname]

/-- Of collected members the last one under a key is found, and all have been read. -/
theorem get?_collect? {α : Type} {read : Source → Option α} {seen d : Dict String α}
    {members : List (Option String × Source)} (h : collect? read seen members = some d) :
    d.get? key = (lastMember? key members).elim (seen.get? key) read ∧
      ∀ s, lastMember? key members = some s → (read s).isSome := by
  induction members generalizing seen with
  | nil =>
      cases h
      exact ⟨rfl, fun s hs => nomatch hs⟩
  | cons member rest ih =>
      obtain ⟨name, s⟩ := member
      simp only [collect?, Option.bind_eq_bind, Option.bind_eq_some_iff] at h
      obtain ⟨name, rfl, value, hvalue, h⟩ := h
      obtain ⟨hget, hread⟩ := ih h
      rw [hget, lastMember?]
      cases hlast : lastMember? key rest with
      | some s' => exact ⟨rfl, fun t ht => hread t (hlast.trans ht)⟩
      | none =>
          by_cases hname : name = key
          · subst hname
            simp [hvalue]
          · have hother : key ≠ name := fun heq => hname heq.symm
            simp [hname, Dict.get?_insert_of_ne _ _ hother]

theorem lastMember?_entries {α : Type} (form : α → Source) (d : Dict String α) :
    lastMember? key (keyed (d.entries.map fun entry => (entry.1, form entry.2))) =
      (d.get? key).map form := by
  obtain ⟨entries, ascending⟩ := d
  simp only [Dict.get?]
  induction entries with
  | nil => rfl
  | cons entry rest ih =>
      have hrest := ih (List.pairwise_cons.mp ascending).2
      simp only [keyed, List.map_cons, lastMember?] at hrest ⊢
      rw [hrest, Ascending.find?]
      by_cases hname : key = entry.1
      · subst hname
        simp [Ascending.find?_tail ascending]
      · have hne : compare key entry.1 ≠ .eq :=
          fun heq => hname (Std.LawfulEqCmp.eq_of_compare heq)
        have hother : some entry.1 ≠ some key := fun heq => hname (Option.some.inj heq).symm
        rw [if_neg hne, if_neg hother, Option.or_none]

theorem member?_of_open {names : List String} {s member : Source} {f : Fields}
    {extra : Dict String Json} (hf : s.openFields? names = some f)
    (hextra : f.others? = some extra) (hkey : key ∉ names) (hmember : s.member? key = some member)
    (values : List (Option Json)) :
    ∃ value, member.toJson? = some value ∧
      (ofJson (.record (slots names values ++ kept extra))).member? key = some (ofJson value) := by
  cases s with
  | obj members =>
      obtain ⟨named, rfl, -, rfl⟩ := openFields?_obj_eq_some_iff.mp hf
      have hother :
          lastMember? key (keyed (Fields.ofMembers names named).others) = some member := by
        rw [Fields.ofMembers, lastMember?_keyed_filter]
        · exact hmember
        · intro s
          simpa using hkey
      have hextra : collect? toJson? .empty (keyed (Fields.ofMembers names named).others) =
          some extra := hextra
      obtain ⟨hget, hread⟩ := @get?_collect? key _ _ _ _ _ hextra
      rw [hother, Option.elim_some] at hget
      obtain ⟨value, hvalue⟩ := Option.isSome_iff_exists.mp (hread member hother)
      refine ⟨value, hvalue, ?_⟩
      have hslots : lastMember? key (keyed (formed ofJson (slots names values))) = none := by
        refine lastMember?_eq_none fun m hm heq => hkey ?_
        obtain ⟨written, hwritten, rfl⟩ := List.mem_map.mp hm
        rw [← Option.some.inj heq]
        exact (keys_formed_slots ofJson names values).subset
          (List.mem_map.mpr ⟨written, hwritten, rfl⟩)
      rw [ofJson_record, member?, formed_append, keyed, List.map_append, lastMember?_append]
      change (lastMember? key (keyed _)).or (lastMember? key (keyed _)) = _
      rw [hslots, Option.or_none, formed_kept, lastMember?_entries, hget, hvalue]
      rfl
  | _ => cases hf

end LastMember

theorem getElem?_of_mapM {α β : Type} {read : α → Option β} {items : List α} {as : List β}
    (h : items.mapM read = some as) {place : Nat} {item : α} (hitem : items[place]? = some item) :
    ∃ a, read item = some a ∧ as[place]? = some a := by
  induction items generalizing as place with
  | nil => simp at hitem
  | cons first rest ih =>
      rw [List.mapM_cons] at h
      simp only [Option.bind_eq_bind, Option.bind_eq_some_iff] at h
      obtain ⟨a, ha, others, hothers, h⟩ := h
      cases h
      cases place with
      | zero =>
          cases hitem
          exact ⟨a, ha, rfl⟩
      | succ place => simpa using ih hothers (by simpa using hitem)

section Written

variable {names : List String} {values : List (Option Json)} {name : String} {value : Json}

theorem step?_openRecord {extra : Dict String Json} (hnames : names.Nodup)
    (hextra : ∀ key ∈ extra.keys, key ∉ names) (hslot : slot? name names values = some value)
    (hvalue : value ≠ .null) :
    (ofJson (.record (slots names values ++ kept extra))).step? (.field names name) =
      some (ofJson value) := by
  have hfields := fields?_of_openFields? (@openFields?_record names values extra hnames hextra)
  refine step?_field_eq_some_iff.mpr ⟨_, hfields, ?_, mt ofJson_eq_null_iff.mp hvalue⟩
  rw [Fields.find?_written hnames, hslot, Option.map_some]

theorem step?_record (hnames : names.Nodup) (hslot : slot? name names values = some value)
    (hvalue : value ≠ .null) :
    (ofJson (.record (slots names values))).step? (.field names name) = some (ofJson value) := by
  refine step?_field_eq_some_iff.mpr
    ⟨_, fields?_record hnames, ?_, mt ofJson_eq_null_iff.mp hvalue⟩
  rw [Fields.find?_written hnames, hslot, Option.map_some]

end Written

end Source

namespace Fields

variable {α : Type} {f : Fields} {name : String} {read : Source → Option α} {part : Source}

theorem read_of_required? {a : α} (h : f.required? name read = some a)
    (hpart : f.find? name = some part) : read part = some a := by
  rwa [required?, hpart] at h

theorem read_of_given? {a default : α} (h : f.given? name default read = some a)
    (hpart : f.find? name = some part) : read part = some a := by
  rwa [given?, hpart] at h

theorem read_of_optional? {o : Option α} (h : f.optional? name read = some o)
    (hpart : f.find? name = some part) (hvalue : part ≠ .null) :
    ∃ a, o = some a ∧ read part = some a := by
  rw [optional?_eq, hpart, orNone?_some hvalue, Option.map_eq_some_iff] at h
  obtain ⟨a, ha, rfl⟩ := h
  exact ⟨a, rfl, ha⟩

end Fields

/-- What is read at a place is read by the reader of its parts, and is found there again when the
whole is written. -/
def Carries {α β : Type} (path : List PathStep) (read : Source → Option α) (write : α → Json)
    (readPart : Source → Option β) (writePart : β → Json) : Prop :=
  ∀ s a part, read s = some a → s.at? path = some part →
    ∃ b, readPart part = some b ∧ (ofJson (write a)).at? path = some (ofJson (writePart b))

namespace Carries

variable {α β γ : Type} {read : Source → Option α} {write : α → Json}
  {readPart : Source → Option β} {writePart : β → Json} {readInner : Source → Option γ}
  {writeInner : γ → Json}

theorem nil (read : Source → Option α) (write : α → Json) : Carries [] read write read write := by
  intro s a part hread hpart
  cases hpart
  exact ⟨a, hread, rfl⟩

theorem append {left right : List PathStep} (h : Carries left read write readPart writePart)
    (hinner : Carries right readPart writePart readInner writeInner) :
    Carries (left ++ right) read write readInner writeInner := by
  intro s a part hread hpart
  rw [Source.at?_append, Option.bind_eq_some_iff] at hpart
  obtain ⟨middle, hmiddle, hpart⟩ := hpart
  obtain ⟨b, hb, hwritten⟩ := h s a middle hread hmiddle
  obtain ⟨c, hc, hwrittenInner⟩ := hinner middle b part hb hpart
  refine ⟨c, hc, ?_⟩
  rw [Source.at?_append, hwritten, Option.bind_some, hwrittenInner]

theorem item (read : Source → Option α) (write : α → Json) (place : Nat) :
    Carries [.item place] (Source.list? read) (fun as => .arr (as.map write)) read write := by
  intro s as part hread hpart
  rw [Source.at?_singleton] at hpart ⊢
  cases s with
  | arr items =>
      obtain ⟨a, ha, hget⟩ := Source.getElem?_of_mapM hread hpart
      refine ⟨a, ha, ?_⟩
      rw [ofJson, Source.itemsOfJson_eq, List.map_map, Source.step?]
      simp [hget]
  | _ => cases hread

theorem entry (read : Source → Option α) (write : α → Json) (key : String) :
    Carries [.entry key] (Source.dict? read)
      (fun d => .obj (d.entries.map fun e => (e.1, write e.2))) read write := by
  intro s d part hread hpart
  rw [Source.at?_singleton] at hpart ⊢
  cases s with
  | obj members =>
      have hlast : Source.lastMember? key members = some part := hpart
      obtain ⟨hget, hall⟩ := @Source.get?_collect? key _ _ _ _ _ hread
      obtain ⟨a, ha⟩ := Option.isSome_iff_exists.mp (hall part hlast)
      rw [hlast, Option.elim_some, ha] at hget
      refine ⟨a, ha, ?_⟩
      rw [ofJson, Source.membersOfJson_eq, List.map_map, Source.step?, Source.member?]
      have hentries := @Source.lastMember?_entries key _ (fun a => ofJson (write a)) d
      rw [hget] at hentries
      exact hentries
  | _ => cases hread

end Carries

end NodeCanvas
