import NodeCanvas.Proofs.Form.Reconcile
import NodeCanvas.Proofs.Session.Agreement

/-!
A panel from its opening to its saving. The panel holds the values that the node had when it was
opened, and saving puts them in place of all that the node has by then: fields that were not
touched in the panel go back to what they were at its opening, whatever was written to the node
in the meantime.
-/
namespace NodeCanvas

namespace Event

/-- The fields that the event tells were reset. -/
def resetFields : Event → List String
  | .fieldsReset _ fields => fields
  | _ => []

/-- The event tells that a panel was opened or closed. -/
def isOfPanel : Event → Bool
  | .panelOpened _ | .panelClosed .. => true
  | _ => false

end Event

namespace Session

/-- The fields of the open panel that an operation touches: that of an edit which is accepted,
and those that are reset. -/
def Move.touched (s : Session) (move : Move) : List String :=
  let reset := (s.perform move).events.flatMap Event.resetFields
  match move with
  | .editPanel field edit =>
    match (s.editPanel field edit).answer with
    | .ok true => field :: reset
    | _ => reset
  | _ => reset

/-- The parameters of a node that an operation writes without its panel. -/
def Move.written (id : String) : Move → List String
  | .updateParameters other values => if other = id then values.keys else []
  | _ => []

/-- What can come of a session while no panel is opened or closed: the fields that were touched
in the panel, the parameters of a node that were written without it, and the session then. -/
inductive Editing (id : String) (s : Session) : List String → List String → Session → Prop
  | opened : Editing id s [] [] s
  | step {touched written : List String} {middle : Session} (move : Move)
      (h : Editing id s touched written middle) (fresh : move.Fresh middle)
      (stays : ∀ e ∈ (middle.perform move).events, e.isOfPanel = false) :
      Editing id s (touched ++ move.touched middle) (written ++ move.written id)
        (middle.perform move).session

/-- The panel of a node is open before and after, with the same values outside the touched
fields, and the node has the same values outside the written ones. -/
structure Undisturbed (id : String) (touched written : List String) (s after : Session) : Prop where
  target : s.graph.panel = some id → after.graph.panel = some id
  panel : ∀ form, s.panel = some form → form.nodeId = id →
    ∃ next, after.panel = some next ∧ next.nodeId = id ∧
      Dict.AgreeOutside touched form.values next.values
  nodes : ∀ m ∈ after.graph.nodes, m.id = id → ∃ n ∈ s.graph.nodes, n.id = id ∧
    Dict.AgreeOutside written n.parameters m.parameters

namespace Undisturbed

variable {id : String} {touched written : List String} {s after : Session}

theorem refl (id : String) (touched written : List String) (s : Session) :
    Undisturbed id touched written s s where
  target := fun h => h
  panel := fun form h hid => ⟨form, h, hid, .refl _ _⟩
  nodes := fun m hm hid => ⟨m, hm, hid, .refl _ _⟩

theorem trans {more also : List String} {last : Session}
    (h : Undisturbed id touched written s after) (hlast : Undisturbed id more also after last) :
    Undisturbed id (touched ++ more) (written ++ also) s last where
  target := fun hs => hlast.target (h.target hs)
  panel := by
    intro form hform hid
    obtain ⟨next, hnext, hnextId, hvalues⟩ := h.panel form hform hid
    obtain ⟨final, hfinal, hfinalId, hrest⟩ := hlast.panel next hnext hnextId
    exact ⟨final, hfinal, hfinalId, hvalues.trans hrest⟩
  nodes := by
    intro m hm hid
    obtain ⟨n, hn, hnid, hrest⟩ := hlast.nodes m hm hid
    obtain ⟨k, hk, hkid, hvalues⟩ := h.nodes n hn hnid
    exact ⟨k, hk, hkid, hvalues.trans hrest⟩

theorem of_covers (hpanel : after.panel = s.panel) (htarget : after.graph.panel = s.graph.panel)
    (hcovers : s.graph.Covers after.graph) : Undisturbed id touched written s after where
  target := fun h => htarget.trans h
  panel := fun form h hid => ⟨form, hpanel.trans h, hid, .refl _ _⟩
  nodes := by
    intro m hm hid
    obtain ⟨n, hn, hnid, hparameters⟩ := hcovers m hm
    refine ⟨n, hn, hnid.trans hid, ?_⟩
    rw [hparameters]
    exact .refl _ _

theorem of_form {form next : Form} (hs : s.panel = some form) (hpanel : after.panel = some next)
    (hgraph : after.graph = s.graph) (hid : next.nodeId = form.nodeId)
    (hvalues : Dict.AgreeOutside touched form.values next.values) :
    Undisturbed id touched written s after where
  target := by
    rw [hgraph]
    exact fun h => h
  panel := by
    intro other hother hotherId
    rw [hs] at hother
    obtain rfl := Option.some.inj hother
    exact ⟨next, hpanel, hid.trans hotherId, hvalues⟩
  nodes := by
    rw [hgraph]
    exact fun m hm hmid => ⟨m, hm, hmid, .refl _ _⟩

end Undisturbed

section Step

variable {s : Session} {form : Form}

theorem resetEvents_resetFields (f : Form) (reset : List String) :
    (resetEvents f reset).flatMap Event.resetFields = reset := by
  unfold resetEvents
  split
  · rename_i hnone
    rw [List.isEmpty_iff.mp hnone]
    rfl
  · simp [Event.resetFields]

theorem touched_editPanel {field : String} {edit : Edit} {next : Form} (h : s.panel = some form)
    (hedit : form.edit field edit = .ok (some next)) :
    (Move.editPanel field edit).touched s = field :: next.staleFields s.choices := by
  have hstep : s.editPanel field edit = {
      answer := .ok true
      session := { s with panel := some (next.reconcile s.choices).2 }
      events := resetEvents (next.reconcile s.choices).2 (next.staleFields s.choices) } := by
    rw [editPanel, h]
    simp only [hedit]
    rfl
  unfold Move.touched perform
  simp only [hstep, resetEvents_resetFields]

theorem touched_resolvePanel (service : Service.Answers) (h : s.panel = some form) :
    (Move.resolvePanel service).touched s =
      form.staleFields ((form.resolve s.choices).run service).1.2.2 := by
  unfold Move.touched perform
  simp only [s.resolvePanel_eq service h, resetEvents_resetFields,
    form.resolve_run s.choices service, Form.reconcile_eq]

theorem Undisturbed.added {key id : String} {token : Token} {graph : Graph}
    (h : s.graph.addFrom s.catalog key token = .ok (id, graph)) (fresh : id ∉ s.graph.nodeIds)
    {target : String} (htarget : target ∈ s.graph.nodeIds) (touched written : List String) :
    Undisturbed target touched written s { s with graph } := by
  obtain ⟨type, -, heq⟩ := Graph.addFrom_eq_ok h
  obtain ⟨rfl, rfl⟩ := Prod.mk.inj heq
  refine ⟨fun hs => hs, fun form hform hid => ⟨form, hform, hid, .refl _ _⟩, ?_⟩
  intro m hm hid
  rcases List.mem_append.mp hm with hm | hm
  · exact ⟨m, hm, hid, .refl _ _⟩
  · rw [List.mem_singleton] at hm
    subst hm
    subst hid
    exact absurd htarget fresh

theorem Undisturbed.updated {id : String} {values : Parameters} {staging : Staging}
    {graph : Graph} (h : s.staging.merge? s.graph id values = some (staging, graph))
    (hgraph : s.graph.WellFormed) (target : String) (touched : List String) :
    Undisturbed target touched ((Move.updateParameters id values).written target) s
      { s with staging, graph } := by
  obtain ⟨hupdate, -⟩ := Staging.merge?_eq_some h
  have hkept : graph.panel = s.graph.panel := by
    obtain ⟨-, rfl⟩ := Graph.change?_eq_some hupdate
    rfl
  refine ⟨hkept.trans, fun form hform hid => ⟨form, hform, hid, .refl _ _⟩, ?_⟩
  intro m hm hid
  rcases Graph.mem_of_change? hgraph.distinct hupdate hm with ⟨hm, -⟩ | ⟨n, hn, hnid, rfl⟩
  · exact ⟨m, hm, hid, .refl _ _⟩
  · refine ⟨n, hn, hid, ?_⟩
    have hwritten : (Move.updateParameters id values).written target = values.keys := by
      rw [Move.written, if_pos (hnid.symm.trans hid)]
    rw [hwritten]
    exact n.parameters.agreeOutside_update values

theorem Undisturbed.deleted {id : String} {graph : Graph}
    (h : s.graph.delete? id = some graph) (hpanel : s.panel = some form)
    (htarget : s.graph.panel = some form.nodeId) (hother : form.nodeId ≠ id)
    (touched written : List String) :
    Undisturbed form.nodeId touched written s
      { s with graph, panel := if s.panel.any fun f => f.nodeId == id then none else s.panel } := by
  refine .of_covers ?_ ?_ (.delete h)
  · rw [hpanel]
    simp [hother]
  · obtain ⟨-, rfl⟩ := Graph.delete?_eq_some h
    simp [htarget, hother]

/-- One operation that opens and closes no panel. -/
theorem undisturbed_perform (hpanel : s.panel = some form)
    (htarget : s.graph.panel = some form.nodeId) (hgraph : s.graph.WellFormed) (move : Move)
    (fresh : move.Fresh s) (stays : ∀ e ∈ (s.perform move).events, e.isOfPanel = false) :
    Undisturbed form.nodeId (move.touched s) (move.written form.nodeId) s
      (s.perform move).session := by
  have hgives := s.gives_perform move
  have hsame : s.graph.Covers s.graph := .of_subset (List.Subset.refl _)
  generalize s.perform move = step at hgives stays ⊢
  have hquiet : ∀ e ∈ step.events, e.isOfPanel = true → False := by
    intro e he htrue
    rw [stays e he] at htrue
    cases htrue
  cases hgives with
  | failed | unlisted | unresolved | notOpen | notRunning => exact .refl ..
  | listed | begun | cancelled => exact .of_covers rfl rfl hsame
  | added h => exact .added h (fresh _ _ h).1 (hgraph.panel _ htarget) _ _
  | deleted h =>
      refine .deleted h hpanel htarget (fun hid => ?_) _ _
      refine hquiet (.panelClosed form.nodeId false) ?_ rfl
      simp [abandoned_of_some hpanel, hid]
  | connected h =>
      have hcovers := Graph.Covers.connect h
      obtain ⟨-, -, rfl⟩ := Graph.connect_eq_ok h
      exact .of_covers rfl rfl hcovers
  | edgeRemoved h =>
      have hcovers := Graph.Covers.removeEdge h
      obtain ⟨-, rfl⟩ := Graph.removeEdge?_eq_some h
      exact .of_covers rfl rfl hcovers
  | updated h => exact .updated h hgraph _ _
  | moved h =>
      have hcovers := Graph.Covers.change h fun _ => ⟨rfl, rfl⟩
      obtain ⟨-, rfl⟩ := Graph.change?_eq_some h
      exact .of_covers rfl rfl hcovers
  | @panelOpened id =>
      refine (hquiet (.panelOpened id) ?_ rfl).elim
      exact List.mem_append_right _ (List.mem_singleton.mpr rfl)
  | groupToggled h htoggle =>
      obtain rfl := Form.toggleGroup?_eq_some htoggle
      exact .of_form h rfl rfl rfl (.refl _ _)
  | @edited field edit form' next h hedit =>
      rw [touched_editPanel h hedit]
      obtain ⟨_, value, -, -, rfl⟩ := Form.edit_eq_some hedit
      refine .of_form h rfl rfl (Form.nodeId_reconcile _ _) ?_
      intro key hkey
      rw [List.mem_cons, not_or] at hkey
      rw [Form.get?_reconcile_of_not_mem _ _ hkey.2, Form.get?_setValue_of_ne _ _ hkey.1]
  | resolved service h =>
      rw [touched_resolvePanel service h]
      rw [Form.resolve_run]
      refine .of_form h rfl rfl (Form.nodeId_reconcile _ _) ?_
      exact fun key hkey => Form.get?_reconcile_of_not_mem _ _ hkey
  | panelClosed | panelSaved | panelLost => exact (hquiet _ (List.mem_cons_self ..) rfl).elim
  | finished result =>
      have hbody := outcomeOf_sameBody s.graph result
      exact .of_covers rfl hbody.panel hbody.covers
  | @ran service plan =>
      have hbody := outcomeOf_sameBody s.graph (service (.run plan))
      exact .of_covers rfl hbody.panel hbody.covers
  | imported | loaded =>
      refine (hquiet (.panelClosed form.nodeId false) ?_ rfl).elim
      simp [abandoned_of_some hpanel]

end Step

/-- Everything that happens while no panel is opened or closed. -/
theorem Editing.undisturbed {s after : Session} {id : String} {touched written : List String}
    (h : Editing id s touched written after) (hs : s.Reachable) {form : Form}
    (hpanel : s.panel = some form) (hid : form.nodeId = id) (htarget : s.graph.panel = some id) :
    after.Reachable ∧ Undisturbed id touched written s after := by
  induction h with
  | opened => exact ⟨hs, .refl ..⟩
  | step move _ fresh stays ih =>
      obtain ⟨hreachable, hsofar⟩ := ih
      obtain ⟨next, hnext, hnextId, -⟩ := hsofar.panel form hpanel hid
      have hopen := hsofar.target htarget
      have hgraph := hreachable.graph_reachable.wellFormed
      have hmove := undisturbed_perform hnext (by rw [hopen, hnextId]) hgraph move fresh stays
      rw [hnextId] at hmove
      exact ⟨hreachable.step move fresh, hsofar.trans hmove⟩

/-- The panel of a node opens with what the node has. -/
theorem Reachable.openPanel_session {s : Session} (h : s.Reachable) {n : Node}
    (hn : n ∈ s.graph.nodes) :
    (s.openPanel n.id).session = { s with
      graph := { s.graph with panel := some n.id }
      panel := some (.ofNode n.id n.type n.parameters) } := by
  have hfound := Graph.node?_of_mem h.graph_reachable.wellFormed.distinct hn
  obtain ⟨-, hsession⟩ := s.openPanel_of_node hfound
  have hvalues : (s.staging.get? n.id).getD n.parameters = n.parameters := by
    rcases h.agrees n hn with hnone | hsome
    · rw [hnone, Option.getD_none]
    · rw [hsome, Option.getD_some]
  rw [hsession, hvalues]

theorem savePanel_of_node {s : Session} {form : Form} (h : s.panel = some form) {n : Node}
    (hn : s.graph.node? form.nodeId = some n) :
    s.savePanel.answer = true ∧ s.savePanel.session.graph.node? form.nodeId =
      some { n with parameters := form.values } := by
  obtain ⟨hmem, hid⟩ := Graph.mem_of_node? hn
  rw [savePanel_eq h (hid ▸ Graph.mem_nodeIds_of_mem hmem)]
  refine ⟨rfl, ?_⟩
  have hchanged := Graph.find?_changeNode form.nodeId
    (fun n => { n with parameters := form.values }) (fun _ => rfl) s.graph.nodes
  rw [Graph.node?, hchanged, ← Graph.node?, hn]
  rfl

/-- A panel that was opened and neither closed nor opened again can be saved, and what is saved
is just what it holds: fields that were not touched have what the node had at the opening. That
is what the node has until the saving as well, but for the parameters that were written without
the panel, which are lost. -/
theorem Reachable.savePanel_spec {s : Session} (h : s.Reachable) {n : Node}
    (hn : n ∈ s.graph.nodes) {touched written : List String} {later : Session}
    (hediting : Editing n.id (s.openPanel n.id).session touched written later) :
    later.savePanel.answer = true ∧
    ∃ form before after, later.panel = some form ∧
      later.graph.node? n.id = some before ∧
      later.savePanel.session.graph.node? n.id = some after ∧
      after.parameters = form.values ∧
      ∀ key ∉ touched, after.parameters.get? key = n.parameters.get? key ∧
        (key ∉ written → before.parameters.get? key = after.parameters.get? key) := by
  have hopened := h.openPanel_session hn
  have hreachable : (s.openPanel n.id).session.Reachable := h.step (.openPanel n.id) trivial
  have hpanel : (s.openPanel n.id).session.panel = some (.ofNode n.id n.type n.parameters) := by
    rw [hopened]
  have hshown : (s.openPanel n.id).session.graph.panel = some n.id := by rw [hopened]
  obtain ⟨hlater, hundisturbed⟩ := hediting.undisturbed hreachable hpanel rfl hshown
  obtain ⟨form, hform, hid, hvalues⟩ := hundisturbed.panel _ hpanel rfl
  have hgraph := hlater.graph_reachable.wellFormed
  have htarget : later.graph.panel = some n.id := hundisturbed.target hshown
  obtain ⟨before, hmem, hbeforeId⟩ := List.mem_map.mp (hgraph.panel _ htarget)
  have hbefore : later.graph.node? n.id = some before :=
    hbeforeId ▸ Graph.node?_of_mem hgraph.distinct hmem
  obtain ⟨hsaved, hafter⟩ := savePanel_of_node hform (hid.symm ▸ hbefore)
  rw [hid] at hafter
  refine ⟨hsaved, form, before, _, hform, hbefore, hafter, rfl, ?_⟩
  intro key hkey
  have huntouched : form.values.get? key = n.parameters.get? key := hvalues key hkey
  refine ⟨huntouched, fun hwritten => ?_⟩
  -- The node that has the id at the opening is the one that was opened.
  obtain ⟨m, hm, hmid, hkept⟩ := hundisturbed.nodes before hmem hbeforeId
  rw [hopened] at hm
  have hdistinct := h.graph_reachable.wellFormed.distinct
  obtain rfl : m = n := List.inj_on_of_nodup_map hdistinct hm hn hmid
  exact (hkept key hwritten).trans huntouched.symm

theorem Editing.step_of_eq {s middle : Session} {id : String}
    {touched written more also : List String} (h : Editing id s touched written middle)
    (move : Move) (fresh : move.Fresh middle)
    (stays : ∀ e ∈ (middle.perform move).events, e.isOfPanel = false)
    (htouched : touched ++ move.touched middle = more)
    (hwritten : written ++ move.written id = also) :
    Editing id s more also (middle.perform move).session := by
  subst htouched hwritten
  exact h.step move fresh stays

def noted : Session :=
  ((started.openPanel "q").session.perform
    (.updateParameters "q" (.ofList [("note", .bool false)]))).session

/-- Nothing was touched in the panel, and yet the note that was written does not survive. -/
theorem noted_savePanel_loses_note :
    started.Reachable ∧ (started.openPanel "q").answer = true ∧
    Editing "q" (started.openPanel "q").session [] ["note"] noted ∧
    noted.savePanel.answer = true ∧
    (noted.graph.node? "q").bind (·.parameters.get? "note") = some (.bool false) ∧
    (noted.savePanel.session.graph.node? "q").bind (·.parameters.get? "note") =
      some (.bool true) := by
  refine ⟨started_reachable, by decide +kernel, ?_, by decide +kernel, by decide +kernel,
    by decide +kernel⟩
  exact Editing.opened.step_of_eq (.updateParameters "q" (.ofList [("note", .bool false)])) trivial
    (by decide +kernel) (by decide +kernel) (by decide +kernel)

def limited : Session :=
  let edited := ((started.openPanel "q").session.perform
    (.editPanel "query" (.text "Why?"))).session
  (edited.perform (.updateParameters "q" (.ofList [("limit", .natural 7)]))).session

theorem limited_savePanel_spec :
    started.Reachable ∧
    Editing "q" (started.openPanel "q").session ["query"] ["limit"] limited ∧
    limited.savePanel.answer = true ∧
    ∃ before after, limited.graph.node? "q" = some before ∧
      limited.savePanel.session.graph.node? "q" = some after ∧
      before.parameters.get? "limit" = some (.natural 7) ∧
      after.parameters.get? "limit" = none ∧
      before.parameters.get? "note" = after.parameters.get? "note" := by
  have hedited : Editing "q" (started.openPanel "q").session ["query"] []
      ((started.openPanel "q").session.perform (.editPanel "query" (.text "Why?"))).session :=
    Editing.opened.step_of_eq _ trivial (by decide +kernel) (by decide +kernel)
      (by decide +kernel)
  have hediting : Editing "q" (started.openPanel "q").session ["query"] ["limit"] limited :=
    hedited.step_of_eq (.updateParameters "q" (.ofList [("limit", .natural 7)])) trivial
      (by decide +kernel) (by decide +kernel) (by decide +kernel)
  obtain ⟨n, hn⟩ := Option.isSome_iff_exists.mp
    (show (started.graph.node? "q").isSome = true by decide +kernel)
  have hlimit : (started.graph.node? "q").bind (·.parameters.get? "limit") = none := by
    decide +kernel
  have hwritten : (limited.graph.node? "q").bind (·.parameters.get? "limit") =
      some (.natural 7) := by decide +kernel
  rw [hn, Option.bind_some] at hlimit
  obtain ⟨hmem, hid⟩ := Graph.mem_of_node? hn
  have hspec := started_reachable.savePanel_spec hmem (hid.symm ▸ hediting)
  rw [hid] at hspec
  obtain ⟨hsaved, form, before, after, -, hbefore, hafter, -, hkept⟩ := hspec
  rw [hbefore, Option.bind_some] at hwritten
  refine ⟨started_reachable, hediting, hsaved, before, after, hbefore, hafter, hwritten, ?_, ?_⟩
  · rw [(hkept "limit" (by decide)).1, hlimit]
  · exact (hkept "note" (by decide)).2 (by decide)

end Session

end NodeCanvas
