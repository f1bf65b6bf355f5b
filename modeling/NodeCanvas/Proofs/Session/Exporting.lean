import NodeCanvas.Proofs.Document.Nesting
import NodeCanvas.Proofs.Form.Reconcile
import NodeCanvas.Proofs.Session.Moves

namespace NodeCanvas

open Source (ofJson)

structure NodeType.Known (t : NodeType) : Prop where
  sound : t.Sound
  fits : t.toJson.Fits

namespace Catalog

def Known (c : Catalog) : Prop := c.types.All NodeType.Known

theorem Known.insertAt {c : Catalog} (h : c.Known) (key : String) {t : NodeType} (ht : t.Known) :
    (c.insertAt key t).Known :=
  Dict.All.insert h key ht

theorem known_empty : ({} : Catalog).Known := Dict.All.empty

theorem known_ofListing {l : Listing} (h : l.types.All NodeType.Known) : (ofListing l).Known := by
  obtain ⟨⟨c, rest⟩, ⟨hc, hrest⟩, hmade⟩ : ∃ state : Catalog × Dict String NodeType,
      (state.1.Known ∧ state.2.All NodeType.Known) ∧ ofListing l =
        state.2.entries.foldl (fun c entry => c.insertAt entry.1 entry.2) state.1 := by
    refine ⟨_, ?_, rfl⟩
    refine List.foldlRecOn
      (motive := fun state : Catalog × Dict String NodeType =>
        state.1.Known ∧ state.2.All NodeType.Known)
      _ _ ⟨known_empty, h⟩ ?_
    rintro ⟨c, rest⟩ ⟨hc, hrest⟩ key -
    dsimp only
    split
    · exact ⟨hc.insertAt key (hrest.of_get? ‹_›), hrest.erase key⟩
    · exact ⟨hc, hrest⟩
  rw [hmade]
  exact List.foldlRecOn _ _ hc fun c hc entry hentry => hc.insertAt entry.1 (hrest entry hentry)

end Catalog

namespace Graph

def Known (g : Graph) : Prop := ∀ n ∈ g.nodes, n.Known

variable {g after : Graph}

theorem Known.of_subset (h : g.Known) (hsubset : after.nodes ⊆ g.nodes) : after.Known :=
  fun n hn => h n (hsubset hn)

theorem Known.change (h : g.Known) {id : String} {change : Node → Node}
    (hchange : g.change? id change = some after) (hkeep : ∀ n, n.Known → (change n).Known) :
    after.Known := by
  obtain ⟨-, rfl⟩ := change?_eq_some hchange
  intro n hn
  rcases mem_changeNode hn with hn | ⟨m, hm, -, rfl⟩
  · exact h n hn
  · exact hkeep m (h m hm)

theorem Known.addFrom (h : g.Known) {catalog : Catalog} (hcatalog : catalog.Known) {key id : String}
    {token : Token} (hadd : g.addFrom catalog key token = .ok (id, after)) : after.Known := by
  obtain ⟨type, htype, heq⟩ := addFrom_eq_ok hadd
  obtain ⟨rfl, rfl⟩ := Prod.mk.inj heq
  have hknown := hcatalog.of_get? htype
  intro n hn
  rcases List.mem_append.mp hn with hn | hn
  · exact h n hn
  · rw [List.mem_singleton] at hn
    subst hn
    exact ⟨hknown.sound, hknown.fits, NodeType.fits_defaults hknown.fits⟩

theorem Known.of_sameBody (h : g.Known) (hsame : g.SameBody after) : after.Known := by
  intro m hm
  obtain ⟨n, hn, hbody⟩ := hsame.exists_of_mem hm
  obtain ⟨htype, hfits, hparameters⟩ := h n hn
  rw [hbody]
  exact ⟨htype, hfits, hparameters⟩

theorem distinctNodes_subset (seen : List String) (nodes : List Node) :
    distinctNodes seen nodes ⊆ nodes := by
  induction nodes generalizing seen with
  | nil => exact List.Subset.refl _
  | cons head rest ih =>
      rw [distinctNodes]
      split
      · exact List.subset_cons_of_subset _ (ih seen)
      · exact List.cons_subset_cons _ (ih _)

end Graph

namespace GraphData

theorem known_shareTypes {seen : List NodeType} (hseen : ∀ t ∈ seen, t.Known) {nodes : List Node}
    (h : ∀ n ∈ nodes, n.Known) : ∀ n ∈ shareTypes seen nodes, n.Known := by
  induction nodes generalizing seen with
  | nil => exact h
  | cons n rest ih =>
      rw [List.forall_mem_cons] at h
      have hshared : (shareType seen n.type).Known := by
        unfold shareType
        cases hfound : seen.find? fun s => s.key == n.type.key && s == n.type with
        | none => exact ⟨h.1.type, h.1.typeFits⟩
        | some t => exact hseen t (List.mem_of_find?_eq_some hfound)
      rw [shareTypes, List.forall_mem_cons]
      refine ⟨⟨hshared.sound, hshared.fits, h.1.parameters⟩, ih ?_ h.2⟩
      intro t ht
      rcases List.mem_append.mp ht with ht | ht
      · exact hseen t ht
      · rw [List.mem_singleton.mp ht]
        exact hshared

theorem known_toGraph {d : GraphData} (h : ∀ n ∈ d.nodes, n.toNode.Known) : d.toGraph.Known := by
  intro n hn
  have hnodes : ∀ n ∈ d.nodes.map SavedNode.toNode, n.Known := List.forall_mem_map.mpr h
  have hseen : ∀ t ∈ ([] : List NodeType), t.Known := by simp
  exact known_shareTypes hseen hnodes n (Graph.distinctNodes_subset _ _ hn)

end GraphData

namespace Form

structure Known (f : Form) : Prop where
  values : f.values.All Json.Fits
  states : ∀ c ∈ f.components, c.StatesFit

variable {f : Form}

theorem known_ofNode (id : String) {type : NodeType} {values : Parameters}
    (htype : type.toJson.Fits) (hvalues : values.All Json.Fits) :
    (ofNode id type values).Known where
  values := hvalues
  states := by
    intro c hc
    obtain ⟨g, hg, hc⟩ := List.mem_flatMap.mp hc
    exact NodeType.statesFit_of_mem_groups htype hg hc

theorem Known.setValue (h : f.Known) (name : String) {value : Json} (hvalue : value.Fits) :
    (f.setValue name value).Known :=
  ⟨h.values.insert name hvalue, h.states⟩

theorem Known.reconcile (h : f.Known) (cache : ChoiceCache) : (f.reconcile cache).2.Known :=
  List.foldlRecOn _ _ h fun _ hform name _ => hform.setValue name trivial

theorem Known.edit (h : f.Known) {name : String} {edit : Edit} (hedit : edit.Fits) {after : Form}
    (hafter : f.edit name edit = .ok (some after)) : after.Known := by
  obtain ⟨c, value, hc, hvalue, rfl⟩ := edit_eq_some hafter
  have hstates := h.states c (List.mem_of_find?_eq_some hc)
  exact h.setValue name (Component.fits_of_stored hstates hedit hvalue)

end Form

namespace Session

structure Known (s : Session) : Prop where
  catalog : s.catalog.Known
  graph : s.graph.Known
  staging : s.staging.saved.All fun values => values.All Json.Fits
  panel : ∀ form, s.panel = some form → form.Known

def Move.Sound : Move → Prop
  | .refreshCatalog service => ∀ l, service .listing = .ok l → l.types.All NodeType.Known
  | .updateParameters _ values => values.All Json.Fits
  | .editPanel _ edit => edit.Fits
  | .importDocument document => ∀ n ∈ document.data.nodes, n.toNode.Known
  | .loadWorkflow id service =>
      ∀ stored : StoredWorkflow, service (.load id) = .ok stored →
        ∀ n ∈ stored.data.nodes, n.toNode.Known
  | _ => True

theorem staged_ofGraph {g : Graph} (h : g.Known) :
    (Staging.ofGraph g).saved.All fun values => values.All Json.Fits := by
  rw [Staging.saved_ofGraph]
  refine Dict.All.ofList ?_
  rw [List.forall_mem_map]
  exact fun n hn => (h n hn).parameters

theorem Known.replaced {s : Session} (hs : s.Known) {g : Graph} (h : g.Known) :
    { s with panel := none, graph := g, staging := .ofGraph g }.Known where
  catalog := hs.catalog
  graph := h
  staging := staged_ofGraph h
  panel := by rintro form ⟨⟩

theorem Known.shown {s : Session} (hs : s.Known) {form : Form} (h : form.Known) :
    { s with panel := some form }.Known where
  catalog := hs.catalog
  graph := hs.graph
  staging := hs.staging
  panel := by
    rintro _ ⟨⟩
    exact h

theorem Becomes.known {s after : Session} {move : Move} (h : s.Becomes move after)
    (sound : move.Sound) (hs : s.Known)
    (hcatalog : ∀ service, move = .refreshCatalog service → after.catalog.Known) :
    after.Known := by
  cases h with
  | same | begun | cancelled => exact { hs with }
  | catalog service catalog => exact { hs with catalog := hcatalog service rfl }
  | added h => exact { hs with graph := hs.graph.addFrom hs.catalog h }
  | deleted h =>
      obtain ⟨-, rfl⟩ := Graph.delete?_eq_some h
      refine { hs with graph := hs.graph.of_subset List.eraseP_subset, panel := ?_ }
      intro form hform
      dsimp only at hform
      split at hform
      · cases hform
      · exact hs.panel form hform
  | connected h =>
      obtain ⟨-, -, rfl⟩ := Graph.connect_eq_ok h
      exact { hs with }
  | edgeRemoved h =>
      obtain ⟨-, rfl⟩ := Graph.removeEdge?_eq_some h
      exact { hs with }
  | @updated id values staging graph h =>
      obtain ⟨hupdate, rfl⟩ := Staging.merge?_eq_some h
      have hgraph := hs.graph.change hupdate fun n hn =>
        ⟨hn.type, hn.typeFits, hn.parameters.update sound⟩
      refine { hs with graph := hgraph, staging := ?_ }
      cases hnode : graph.node? id with
      | none => exact hs.staging
      | some n => exact hs.staging.insert id (hgraph n (Graph.mem_of_node? hnode).1).parameters
  | moved h =>
      have hmoved := hs.graph.change h fun n hn => ⟨hn.type, hn.typeFits, hn.parameters⟩
      exact { hs with graph := hmoved }
  | @panelOpened id node h =>
      have hnode := hs.graph node (Graph.mem_of_node? h).1
      have hvalues : ((s.staging.get? id).getD node.parameters).All Json.Fits := by
        cases hstaged : s.staging.get? id with
        | none => exact hnode.parameters
        | some values => exact hs.staging.of_get? hstaged
      exact { hs with panel := (hs.shown (Form.known_ofNode id hnode.typeFits hvalues)).panel }
  | groupToggled h htoggle =>
      have hform := hs.panel _ h
      obtain rfl := Form.toggleGroup?_eq_some htoggle
      exact hs.shown ⟨hform.values, hform.states⟩
  | edited h hedit => exact hs.shown (((hs.panel _ h).edit sound hedit).reconcile s.choices)
  | resolved service h =>
      rw [Form.resolve_run]
      exact { hs with panel := (hs.shown ((hs.panel _ h).reconcile _)).panel }
  | panelClosed | panelLost => exact { hs with panel := by rintro form ⟨⟩ }
  | panelSaved h hcommit =>
      obtain ⟨hreplace, rfl⟩ := Staging.commit?_eq_some hcommit
      have hvalues := (hs.panel _ h).values
      have hclosed : s.graph.closePanel.Known := hs.graph
      have hgraph := hclosed.change hreplace fun n hn => ⟨hn.type, hn.typeFits, hvalues⟩
      exact { hs with
        graph := hgraph
        staging := hs.staging.insert _ hvalues
        panel := by rintro form ⟨⟩ }
  | finished | ran =>
      have hgraph := outcomeOf_graph hs.graph fun report =>
        hs.graph.of_sameBody (s.graph.sameBody_project report)
      exact { hs with graph := hgraph _ }
  | imported document => exact hs.replaced (GraphData.known_toGraph sound)
  | @loaded id service stored h => exact hs.replaced (GraphData.known_toGraph (sound stored h))

theorem known_perform {s : Session} (hs : s.Known) {move : Move} (sound : move.Sound) :
    (s.perform move).session.Known := by
  refine (s.becomes_perform move).known sound hs ?_
  rintro service rfl
  simp only [perform, refreshCatalog, Dialogue.run, takeListing]
  split
  · exact Catalog.known_ofListing (sound _ ‹_›)
  · exact hs.catalog

/-- A session that comes from its start by operations whose data fits documents. -/
inductive Fed : Session → Prop
  | opened (catalog : Catalog) (rules : Rules) (h : catalog.Known) : Fed (opened catalog rules)
  | step {s : Session} (move : Move) (h : Fed s) (sound : move.Sound) : Fed (s.perform move).session

theorem Fed.known {s : Session} (h : s.Fed) : s.Known := by
  induction h with
  | opened catalog rules h =>
      refine ⟨h, by simp [Graph.Known, Session.opened], Dict.All.empty, ?_⟩
      rintro form ⟨⟩
  | step move h sound ih => exact known_perform ih sound

theorem Known.readable_iff {s : Session} (hs : s.Known) (name : Option String) (now : Instant) :
    (Document.ofText? (s.document name now).toText).isSome ↔
      ∀ n ∈ s.graph.nodes, n.position.isFinite = true ∧ n.Shallow := by
  have hnodes : ∀ n ∈ (s.document name now).data.nodes, n.toNode.Known := by
    intro n hn
    obtain ⟨m, hm, rfl⟩ := List.mem_map.mp hn
    exact hs.graph m hm
  rw [Document.isSome_ofText?_toText hnodes]
  exact List.forall_mem_map

/-- Whatever a session is worked on with, its export can be imported again just if its nodes lie at
finite positions and nothing that they hold is nested too deeply. -/
theorem exported_readable_iff {s : Session} (h : s.Fed) (name : Option String) (now : Instant) :
    (Document.ofText? (s.document name now).toText).isSome ↔
      ∀ n ∈ s.graph.nodes, n.position.isFinite = true ∧ n.Shallow :=
  h.known.readable_iff name now

/-! A question that is given arrays inside one another. -/

def nested : ℕ → Json
  | 0 => .arr []
  | n + 1 => .arr [nested n]

theorem depth_nested (n : ℕ) : (nested n).depth = n + 1 := by
  induction n with
  | zero => rfl
  | succ n ih => simp [nested, Json.depth, Json.itemsDepth, ih]

theorem fits_nested (n : ℕ) : (nested n).Fits := by
  induction n with
  | zero => trivial
  | succ n ih => exact ⟨ih, trivial⟩

def askedId : String := "query_node_00000000000000000000000000000007"

def asked : Session :=
  let types := ({} : Catalog).insert Graph.question
  ((opened types .standard).perform (.addNode "query_node" ⟨7⟩)).session

def deepened (n : ℕ) : Session :=
  (asked.perform (.updateParameters askedId (.ofList [("query", nested n)]))).session

def displaced : Session := (asked.perform (.moveNode askedId ⟨.nan, .zero⟩)).session

theorem asked_fed : asked.Fed := by
  have hread : NodeType.ofSource? (ofJson Graph.question.toJson) = some Graph.question := rfl
  have hquestion : Graph.question.Known :=
    ⟨NodeType.sound_of_ofSource? hread, by decide +kernel⟩
  exact .step _ (.opened _ _ (Catalog.known_empty.insertAt _ hquestion)) trivial

theorem deepened_fed (n : ℕ) : (deepened n).Fed :=
  .step _ asked_fed (Dict.All.ofList (by simpa using fits_nested n))

theorem asked_reachable : asked.Reachable :=
  .step _ (.opened _ _) (Move.fresh_addNode rfl (by decide +kernel) (by decide +kernel))

theorem deepened_reachable (n : ℕ) : (deepened n).Reachable := .step _ asked_reachable trivial

theorem nodes_asked : asked.graph.nodes = [
    { id := askedId, type := Graph.question, position := Graph.startPosition ⟨7⟩
      parameters := .ofList [("limit", .natural 5)] }] := by
  decide +kernel

theorem nodes_deepened (n : ℕ) : (deepened n).graph.nodes = [
    { id := askedId, type := Graph.question, position := Graph.startPosition ⟨7⟩
      parameters := (Dict.ofList [("limit", .natural 5)]).insert "query" (nested n) }] := by
  simp [deepened, perform, updateParameters, Staging.merge?, Graph.updateParameters?,
    Graph.change?, Graph.hasNode, Graph.node?, nodes_asked, Graph.changeNode]
  rfl

theorem nodes_displaced : displaced.graph.nodes = [
    { id := askedId, type := Graph.question, position := ⟨.nan, .zero⟩
      parameters := .ofList [("limit", .natural 5)] }] := by
  decide +kernel

theorem readable_deepened_iff (n : ℕ) :
    (∀ m ∈ (deepened n).graph.nodes, m.position.isFinite = true ∧ m.Shallow) ↔ n < 122 := by
  have hwithin : (nested n).Within 5 ↔ n < 122 := by
    rw [Json.Within, depth_nested, Source.depthLimit]
    omega
  have htype : Graph.question.toJson.Within 4 := by
    unfold Json.Within
    decide +kernel
  rw [nodes_deepened, List.forall_mem_singleton, Node.Shallow, ← hwithin]
  constructor
  · rintro ⟨-, -, hvalues⟩
    exact hvalues ("query", nested n) (Dict.get?_eq_some_iff.mp (Dict.get?_insert_self ..))
  · intro hvalue
    have hdefaults : (Dict.ofList [("limit", Json.natural 5)]).All (Json.Within 5) :=
      Dict.All.ofList (by simp [Source.depthLimit])
    exact ⟨rfl, htype, hdefaults.insert "query" hvalue⟩

theorem deepened_readable :
    (deepened 121).Fed ∧ (Document.ofText? ((deepened 121).document none ⟨0⟩).toText).isSome := by
  refine ⟨deepened_fed 121, ?_⟩
  rw [exported_readable_iff (deepened_fed 121)]
  exact (readable_deepened_iff 121).mpr (by decide)

/-- One more array, or a place that is no number, and the export of the session is refused. -/
theorem deepened_refused :
    ((deepened 122).Reachable ∧ (deepened 122).Fed ∧
      Document.ofText? ((deepened 122).document none ⟨0⟩).toText = none) ∧
    displaced.Reachable ∧ displaced.Fed ∧
      Document.ofText? (displaced.document none ⟨0⟩).toText = none := by
  refine ⟨⟨deepened_reachable 122, deepened_fed 122, ?_⟩, ?_⟩
  · rw [← Option.not_isSome_iff_eq_none, (deepened_fed 122).known.readable_iff,
      readable_deepened_iff]
    decide
  · have hfed : displaced.Fed := .step _ asked_fed trivial
    refine ⟨.step _ asked_reachable trivial, hfed, ?_⟩
    rw [← Option.not_isSome_iff_eq_none, hfed.known.readable_iff, nodes_displaced,
      List.forall_mem_singleton]
    rintro ⟨hfinite, -⟩
    cases hfinite

end Session

end NodeCanvas
