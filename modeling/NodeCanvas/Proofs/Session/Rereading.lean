import NodeCanvas.Proofs.Json.Rereading
import NodeCanvas.Session.Event

namespace NodeCanvas

open Source (ofJson toJson?)
open Json (slots slot? kept)

namespace Source

mutual
/-- Whatever is written can be read as a value. -/
theorem isSome_toJson?_ofJson (v : Json) : (ofJson v).toJson?.isSome := by
  match v with
  | .null | .bool _ | .num _ | .str _ => rfl
  | .arr items =>
      rw [ofJson, toJson?, Option.isSome_map]
      exact isSome_itemsToJson?_ofJson items
  | .obj members =>
      rw [ofJson, toJson?, Option.isSome_map]
      exact isSome_membersToJson?_ofJson members .empty

theorem isSome_itemsToJson?_ofJson (items : List Json) :
    (itemsToJson? (itemsOfJson items)).isSome := by
  match items with
  | [] => rfl
  | item :: rest =>
      obtain ⟨v, hv⟩ := Option.isSome_iff_exists.mp (isSome_toJson?_ofJson item)
      obtain ⟨vs, hvs⟩ := Option.isSome_iff_exists.mp (isSome_itemsToJson?_ofJson rest)
      simp [itemsOfJson, itemsToJson?, hv, hvs]

theorem isSome_membersToJson?_ofJson (members : List (String × Json)) (seen : Dict String Json) :
    (membersToJson? seen (membersOfJson members)).isSome := by
  match members with
  | [] => rfl
  | (key, member) :: rest =>
      obtain ⟨v, hv⟩ := Option.isSome_iff_exists.mp (isSome_toJson?_ofJson member)
      simp only [membersOfJson, membersToJson?, Option.bind_eq_bind, Option.bind_some, hv]
      exact isSome_membersToJson?_ofJson rest _
end

theorem takeMember?_of_not_mem {key : String} {members : List (Option String × Source)}
    (h : ∀ m ∈ members, m.1 ≠ some key) : takeMember? key members = some (none, members) := by
  induction members with
  | nil => rfl
  | cons member rest ih =>
      have hrest := ih fun m hm => h m (List.mem_cons_of_mem _ hm)
      simp [takeMember?, hrest, h member (List.mem_cons_self ..)]

/-- The kind stands in front of what is written beside it. -/
theorem tagged?_ofJson {key kind : String} {members : List (String × Json)}
    (h : ∀ m ∈ members, m.1 ≠ key) :
    (ofJson (.obj ((key, .str kind) :: members))).tagged? key =
      some (.str kind, ofJson (.obj members)) := by
  obtain ⟨v, hv⟩ := Option.isSome_iff_exists.mp
    (isSome_toJson?_ofJson (.obj ((key, .str kind) :: members)))
  have hothers : takeMember? key (membersOfJson members) = some (none, membersOfJson members) := by
    refine takeMember?_of_not_mem fun m hm => ?_
    rw [membersOfJson_eq] at hm
    obtain ⟨named, hnamed, rfl⟩ := List.mem_map.mp hm
    obtain ⟨member, hmember, rfl⟩ := List.mem_map.mp hnamed
    simpa using h member hmember
  rw [ofJson, membersOfJson, ofJson] at hv ⊢
  rw [tagged?, hv]
  simp [takeMember?, hothers, discard, ofJson, Functor.mapConst]

end Source

namespace Change

theorem ofSource?_ofJson (c : Change) : ofSource? (ofJson c.toJson) = some c := by
  cases c <;> rw [toJson, ofSource?, Source.tagged?_ofJson (by simp)] <;> rfl

theorem ofInner?_ofJson (c : Change) : ofInner? (ofJson c.toJson) = some c := by
  cases c <;> rw [toJson, ofInner?, Source.tagged?_ofJson (by simp)] <;> rfl

end Change

namespace Event

theorem ofKind?_catalogLoaded {n : Nat} (h : n < 1 <<< 64) :
    ofKind? "catalogLoaded" (ofJson (.obj [("nodeTypes", .natural n)])) =
      some (.catalogLoaded n) := by
  have hkind (s : Source) : ofKind? "catalogLoaded" s =
      (s.fields? ["nodeTypes"]).bind fun f =>
        (f.required? "nodeTypes" (Source.natural? 64)).bind fun n => some (.catalogLoaded n) := rfl
  have hnames : ["nodeTypes"].Nodup := List.nodup_singleton _
  have hfields := @Source.fields?_record ["nodeTypes"] [some (.natural n)] hnames
  have hrecord : Json.record (slots ["nodeTypes"] [some (.natural n)]) =
      .obj [("nodeTypes", .natural n)] := rfl
  rw [hrecord] at hfields
  have hread : (ofJson (.natural n)).natural? 64 = some n := natural?_ofJson h
  rw [hkind, hfields, Option.bind_some, Fields.required?, Fields.find?_written hnames, slot?,
    if_pos rfl, Option.map_some, Option.bind_some, hread, Option.bind_some]

theorem ofSource?_of_tagged {s fields : Source} {kind : String}
    (h : s.tagged? "type" = some (.str kind, fields)) : ofSource? s = ofKind? kind fields := by
  rw [ofSource?, h]
  rfl

theorem ofSource?_ofJson (e : Event) (h : ∀ n, e = .catalogLoaded n → n < 1 <<< 64) :
    ofSource? (ofJson e.toJson) = some e := by
  cases e <;> rw [toJson, ofSource?_of_tagged (Source.tagged?_ofJson (by simp))]
  case catalogFetchFailed | panelOpened | panelClosed => rfl
  case catalogLoaded n =>
    exact ofKind?_catalogLoaded (h n rfl)
  case graphChanged change =>
    change (Change.ofInner? (ofJson change.toJson)).bind (some <| graphChanged ·) = _
    rw [Change.ofInner?_ofJson]
    rfl
  case fieldsReset nodeId fields =>
    change ((ofJson (.texts fields)).list? Source.text?).bind
      (fun found => some (fieldsReset nodeId found)) = _
    rw [list?_texts]
    rfl
  case runStarted nodeIds edgeIds =>
    change ((ofJson (.texts nodeIds)).list? Source.text?).bind (fun nodes =>
      ((ofJson (.texts edgeIds)).list? Source.text?).bind fun edges =>
        some (runStarted nodes edges)) = _
    rw [list?_texts, list?_texts]
    rfl
  case runFinished success error => cases error <;> rfl

theorem lt_of_ofKind? {kind : String} {s : Source} {n : Nat}
    (h : ofKind? kind s = some (.catalogLoaded n)) : n < 1 <<< 64 := by
  unfold ofKind? at h
  split at h
  · simp only [Option.bind_eq_bind, Option.bind_eq_some_iff] at h
    obtain ⟨f, -, m, hm, h⟩ := h
    cases h
    obtain ⟨s, -, hs⟩ := Option.bind_eq_some_iff.mp hm
    exact Source.lt_of_natural? hs
  all_goals simp [Option.bind_eq_some_iff] at h

theorem rereads : Rereads ofSource? toJson where
  reread := by
    intro s e h
    simp only [ofSource?, Option.bind_eq_bind, Option.bind_eq_some_iff] at h
    obtain ⟨⟨tag, fields⟩, -, kind, -, hkind⟩ := h
    refine ofSource?_ofJson e fun n hn => ?_
    rw [hn] at hkind
    exact lt_of_ofKind? hkind
  null_of_null := by
    intro s e _ h
    cases e <;> cases h

end Event

end NodeCanvas
