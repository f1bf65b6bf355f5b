import NodeCanvas.Proofs.Dict
import NodeCanvas.Proofs.Graph.Parameters

namespace NodeCanvas

namespace RunReport

/-- The content that a report gives the node of an id. It is given along with a response, which
stands in for a content that is blank. -/
def contentOf? (r : RunReport) (id : String) : Option String :=
  (r.data.inputs.get? id).bind fun inputs =>
    (inputs.shownMember? "final_response").map fun response =>
      (inputs.shownMember? "response_content").getD response

def errorOf? (r : RunReport) (id : String) : Option String :=
  (r.data.errors.get? id).map Json.displayText

end RunReport

namespace RunData

def shownOn (d : RunData) (id : String) : Annotations :=
  let shown := ((d.inputs.get? id).bind Annotations.ofInputs?).getD {}
  { shown with error := (d.errors.get? id).map Json.displayText }

theorem content_shownOn (r : RunReport) (id : String) :
    (r.data.shownOn id).content = r.contentOf? id := by
  unfold shownOn RunReport.contentOf? Annotations.ofInputs?
  cases r.data.inputs.get? id with
  | none => rfl
  | some inputs => cases h : inputs.shownMember? "final_response" <;> simp [h]

/-- The responses alone, as the annotations are made from them. -/
theorem get?_responses (inputs : Dict String Json) (id : String) :
    (inputs.entries.foldl (fun found entry =>
      match Annotations.ofInputs? entry.2 with
      | some shown => found.insert entry.1 shown
      | none => found) Dict.empty).get? id = (inputs.get? id).bind Annotations.ofInputs? := by
  rw [Dict.get?_foldl _ fun old answer => (Annotations.ofInputs? answer).or old]
  · cases inputs.get? id <;> simp
  · intro found entry
    cases Annotations.ofInputs? entry.2 <;> simp
  · intro found entry key hkey
    cases Annotations.ofInputs? entry.2 with
    | none => rfl
    | some shown => exact Dict.get?_insert_of_ne _ _ hkey

/-- A response comes without an error of its own. -/
theorem error_of_ofInputs? {inputs : Json} {shown : Annotations}
    (h : Annotations.ofInputs? inputs = some shown) : shown.error = none := by
  obtain ⟨response, -, rfl⟩ := Option.map_eq_some_iff.mp h
  rfl

/-- What is kept for an id: its error beside its response where there is one, else the response. -/
theorem find?_annotations (d : RunData) (id : String) :
    d.annotations.get? id =
      (d.errors.get? id).elim ((d.inputs.get? id).bind Annotations.ofInputs?) fun error =>
        some { ((d.inputs.get? id).bind Annotations.ofInputs?).getD {} with
          error := some error.displayText } := by
  unfold annotations
  generalize hresponses :
    List.foldl _ (Dict.empty : Dict String Annotations) d.inputs.entries = responses
  have hanswered : responses.get? id = (d.inputs.get? id).bind Annotations.ofInputs? := by
    rw [← hresponses]
    exact get?_responses d.inputs id
  rw [Dict.get?_foldl _ fun old error =>
    some { old.getD {} with error := some (Json.displayText error) }, hanswered]
  · intro found entry
    simp
  · intro found entry key hkey
    exact Dict.get?_insert_of_ne _ _ hkey

theorem get?_annotations (d : RunData) (id : String) :
    (d.annotations.get? id).getD {} = d.shownOn id := by
  rw [find?_annotations, shownOn]
  cases d.errors.get? id with
  | some error => rfl
  | none =>
      cases hinputs : (d.inputs.get? id).bind Annotations.ofInputs? with
      | none => rfl
      | some shown =>
          obtain ⟨inputs, -, hshown⟩ := Option.bind_eq_some_iff.mp hinputs
          have herror := error_of_ofInputs? hshown
          cases shown
          cases herror
          rfl

end RunData

namespace Graph

theorem changeNode_eq_map {id : String} {change : Node → Node} {nodes : List Node}
    (h : (nodes.map (·.id)).Nodup) :
    changeNode id change nodes = nodes.map fun n => if n.id = id then change n else n := by
  induction nodes with
  | nil => rfl
  | cons n rest ih =>
      rw [List.map_cons, List.nodup_cons] at h
      rw [changeNode, List.map_cons]
      by_cases hid : n.id = id
      · have hrest : ∀ m ∈ rest, (if m.id = id then change m else m) = m := by
          intro m hm
          rw [if_neg]
          intro heq
          exact h.1 (List.mem_map.mpr ⟨m, hm, heq.trans hid.symm⟩)
        rw [if_pos (by simpa using hid), if_pos hid, List.map_congr_left hrest, List.map_id']
      · rw [if_neg (by simpa using hid), if_neg hid, ih h.2]

/-- Annotations reach the nodes of their ids, and leave the others as they were. -/
theorem annotateAll_nodes {g : Graph} (h : g.nodeIds.Nodup) (summary : Projection)
    {entries : List (String × Annotations)} (ascending : Ascending entries) :
    (g.annotateAll summary entries).2.nodes = g.nodes.map fun n =>
      { n with annotations := (Ascending.find? n.id entries).getD n.annotations } := by
  induction entries generalizing g summary with
  | nil => simp [annotateAll, Ascending.find?]
  | cons entry rest ih =>
      have hrest : Ascending rest := (List.pairwise_cons.mp ascending).2
      rw [annotateAll]
      cases hshown : g.annotate? entry.1 entry.2 with
      | some after =>
          obtain ⟨-, rfl⟩ := change?_eq_some hshown
          have hids : (changeNode entry.1 (fun n => { n with annotations := entry.2 })
              g.nodes).map (·.id) = g.nodes.map (·.id) := by
            apply changeNode_ids
            intro n
            rfl
          rw [ih (by rw [nodeIds, hids]; exact h) _ hrest, changeNode_eq_map h, List.map_map]
          apply List.map_congr_left
          intro n _
          by_cases hid : n.id = entry.1
          · simp [hid, Ascending.find?, Ascending.find?_tail ascending]
          · have hne : compare n.id entry.1 ≠ .eq :=
              fun heq => hid (Std.LawfulEqCmp.eq_of_compare heq)
            simp [hid, Ascending.find?, hne]
      | none =>
          have hmissing : entry.1 ∉ g.nodeIds := by
            rw [← hasNode_iff]
            intro hnode
            rw [annotate?, change?, if_pos hnode] at hshown
            cases hshown
          rw [ih h _ hrest]
          apply List.map_congr_left
          intro n hn
          have hne : compare n.id entry.1 ≠ .eq := by
            intro heq
            rw [← Std.LawfulEqCmp.eq_of_compare heq] at hmissing
            exact hmissing (mem_nodeIds_of_mem hn)
          rw [Ascending.find?, if_neg hne]

/-- A report is shown as it tells it, on every node and whatever the node showed before. -/
theorem project_nodes {g : Graph} (h : g.nodeIds.Nodup) (r : RunReport) :
    (g.project r).2.nodes = g.nodes.map fun n => { n with annotations := r.data.shownOn n.id } := by
  have hids : g.clearAnnotations.nodeIds = g.nodeIds := by
    simp [nodeIds, clearAnnotations, List.map_map, Function.comp_def]
  rw [project, annotateAll_nodes (by rw [hids]; exact h) _ r.data.annotations.ascending,
    clearAnnotations, List.map_map]
  apply List.map_congr_left
  intro n _
  rw [← r.data.get?_annotations n.id]
  rfl

end Graph

end NodeCanvas
