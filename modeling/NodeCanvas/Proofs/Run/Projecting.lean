import NodeCanvas.Proofs.Graph.Display
import NodeCanvas.Proofs.Run.Shown

namespace NodeCanvas

theorem Dict.keys_ascending {α : Type} (d : Dict String α) : d.keys.Pairwise (· < ·) :=
  List.pairwise_map.mpr (d.ascending.imp compareOfLessAndEq_eq_lt.mp)

namespace RunData

/-- What a node of an id received is an object that has a text under a key which is not blank. -/
def Gives (d : RunData) (id key text : String) : Prop :=
  ∃ members value, d.inputs.get? id = some (.obj members) ∧
    (Json.obj members).member? key = some value ∧ ¬ Json.Blank (some value) ∧
    value.displayText = text

/-- What a report tells of an id: a response, content along with it, which the response stands in
for, and an error. -/
structure Tells (d : RunData) (id : String) (shown : Annotations) : Prop where
  response : ∀ text, shown.response = some text ↔ d.Gives id "final_response" text
  content : ∀ text, shown.content = some text ↔ ∃ response, shown.response = some response ∧
    (d.Gives id "response_content" text ∨
      text = response ∧ ∀ other, ¬ d.Gives id "response_content" other)
  error : ∀ text, shown.error = some text ↔
    ∃ value, d.errors.get? id = some value ∧ value.displayText = text

def Concerns (d : RunData) (id : String) : Prop :=
  (∃ text, d.Gives id "final_response" text) ∨ id ∈ d.errors.keys

variable {d : RunData} {id : String}

theorem gives_iff {key text : String} :
    d.Gives id key text ↔ (d.inputs.get? id).bind (Json.shownMember? key) = some text := by
  rw [Option.bind_eq_some_iff]
  constructor
  · rintro ⟨members, value, hinputs, hmember, hblank, rfl⟩
    refine ⟨.obj members, hinputs, ?_⟩
    rw [Json.shownMember?, hmember, Option.filter_some, if_pos, Option.map_some]
    rw [Bool.not_eq_true', ← Bool.not_eq_true, Json.isBlank_iff]
    exact hblank
  · rintro ⟨inputs, hinputs, hshown⟩
    obtain ⟨value, hvalue, rfl⟩ := Option.map_eq_some_iff.mp hshown
    obtain ⟨hmember, hblank⟩ := Option.filter_eq_some_iff.mp hvalue
    cases inputs with
    | obj members =>
        rw [Bool.not_eq_true', ← Bool.not_eq_true, Json.isBlank_iff] at hblank
        exact ⟨members, value, hinputs, hmember, hblank, rfl⟩
    | null | bool _ | num _ | str _ | arr _ => cases hmember

/-- The response and its content, from the members that give them. -/
theorem ofInputs?_eq (d : RunData) (id : String) :
    (d.inputs.get? id).bind Annotations.ofInputs? =
      ((d.inputs.get? id).bind (Json.shownMember? "final_response")).map fun response => {
        response := some response
        content := some (((d.inputs.get? id).bind (Json.shownMember? "response_content")).getD
          response) } := by
  cases d.inputs.get? id <;> rfl

theorem tells_shownOn (d : RunData) (id : String) : d.Tells id (d.shownOn id) := by
  refine ⟨?_, ?_, ?_⟩
  · intro text
    rw [gives_iff, shownOn, ofInputs?_eq]
    cases (d.inputs.get? id).bind (Json.shownMember? "final_response") <;> simp
  · intro text
    simp only [gives_iff, shownOn, ofInputs?_eq]
    cases (d.inputs.get? id).bind (Json.shownMember? "final_response") with
    | none => simp
    | some response =>
        cases (d.inputs.get? id).bind (Json.shownMember? "response_content") <;> simp [eq_comm]
  · intro text
    exact Option.map_eq_some_iff

theorem not_isEmpty_shownOn : (d.shownOn id).isEmpty = false ↔ d.Concerns id := by
  rw [Concerns, Dict.mem_keys_iff, shownOn, ofInputs?_eq, Annotations.isEmpty]
  simp only [gives_iff, ← Option.isSome_iff_exists]
  cases (d.inputs.get? id).bind (Json.shownMember? "final_response") <;>
    cases d.errors.get? id <;> simp

theorem mem_keys_annotations : id ∈ d.annotations.keys ↔ d.Concerns id := by
  rw [Concerns, Dict.mem_keys_iff, Dict.mem_keys_iff, find?_annotations, ofInputs?_eq]
  simp only [gives_iff, ← Option.isSome_iff_exists]
  cases (d.inputs.get? id).bind (Json.shownMember? "final_response") <;>
    cases d.errors.get? id <;> simp

end RunData

namespace Graph

variable {g other : Graph}

theorem SameBody.clearAnnotations_eq (h : g.SameBody other) :
    other.clearAnnotations = g.clearAnnotations := by
  have hnodes {nodes after : List Node} (hbodies : List.Forall₂ Node.SameBody nodes after) :
      (after.map fun n => { n with annotations := {} }) =
        nodes.map fun n => { n with annotations := {} } := by
    induction hbodies with
    | nil => rfl
    | cons hhead _ ih => rw [List.map_cons, List.map_cons, ih, hhead]
  rw [clearAnnotations, clearAnnotations, hnodes h.nodes, h.edges, h.panel]

/-- What was shown before leaves no trace. -/
theorem SameBody.project_eq (h : g.SameBody other) (r : RunReport) :
    other.project r = g.project r := by
  rw [project, project, h.clearAnnotations_eq]

theorem nodeIds_clearAnnotations (g : Graph) : g.clearAnnotations.nodeIds = g.nodeIds := by
  simp [nodeIds, clearAnnotations]

/-- Entries are counted or listed by whether their ids are those of nodes. -/
theorem annotateAll_summary (g : Graph) (summary : Projection)
    (entries : List (String × Annotations)) :
    (g.annotateAll summary entries).1 = {
      annotated := summary.annotated + (entries.map (·.1)).countP (· ∈ g.nodeIds)
      skipped := summary.skipped ++ (entries.map (·.1)).filter (· ∉ g.nodeIds) } := by
  induction entries generalizing g summary with
  | nil => simp [annotateAll]
  | cons entry rest ih =>
      rw [annotateAll]
      cases hshown : g.annotate? entry.1 entry.2 with
      | some after =>
          have hids : after.nodeIds = g.nodeIds := nodeIds_change hshown fun _ => rfl
          have hmem : entry.1 ∈ g.nodeIds := (change?_eq_some hshown).1
          simp [ih, hids, hmem, Nat.add_assoc, Nat.add_comm 1]
      | none =>
          have hmissing : entry.1 ∉ g.nodeIds := by
            intro hmem
            rw [annotate?, change?, if_pos (hasNode_iff.mpr hmem)] at hshown
            cases hshown
          simp [ih, hmissing]

theorem project_summary (g : Graph) (r : RunReport) :
    (g.project r).1 = {
      annotated := r.data.annotations.keys.countP (· ∈ g.nodeIds)
      skipped := r.data.annotations.keys.filter (· ∉ g.nodeIds) } := by
  rw [project, annotateAll_summary, nodeIds_clearAnnotations]
  simp [Dict.keys]

/-- The ids that are counted are those of the nodes that show something. -/
theorem annotated_eq (h : g.nodeIds.Nodup) (d : RunData) :
    d.annotations.keys.countP (· ∈ g.nodeIds) =
      g.nodes.countP fun n => !(d.shownOn n.id).isEmpty := by
  have hperm : (d.annotations.keys.filter (· ∈ g.nodeIds)).Perm
      ((g.nodes.filter fun n => !(d.shownOn n.id).isEmpty).map (·.id)) := by
    refine (List.perm_ext_iff_of_nodup (d.annotations.keys_nodup.filter _)
      (h.sublist (List.filter_sublist.map _))).mpr fun id => ?_
    simp only [List.mem_filter, List.mem_map, decide_eq_true_eq, Bool.not_eq_true',
      RunData.mem_keys_annotations, RunData.not_isEmpty_shownOn]
    constructor
    · rintro ⟨hconcerns, hid⟩
      obtain ⟨n, hn, rfl⟩ := List.mem_map.mp hid
      exact ⟨n, ⟨hn, hconcerns⟩, rfl⟩
    · rintro ⟨n, ⟨hn, hconcerns⟩, rfl⟩
      exact ⟨hconcerns, mem_nodeIds_of_mem hn⟩
  rw [List.countP_eq_length_filter, List.countP_eq_length_filter, hperm.length_eq,
    List.length_map]

theorem countP_add_length_filter (ids keys : List String) :
    keys.countP (· ∈ ids) + (keys.filter (· ∉ ids)).length = keys.length := by
  rw [← List.countP_eq_length_filter, keys.length_eq_countP_add_countP (· ∈ ids)]
  simp

/-- A report is shown exactly and without a trace of what was shown before. The nodes show what it
tells of their ids, and nothing else of the graph changes; the nodes that show anything are counted,
the ids without a node are listed in ascending order, and each id with a result is accounted for
once. Showing the report again changes nothing. -/
theorem Reachable.project_exact (h : g.Reachable) (r : RunReport) :
    ∃ told : String → Annotations, (∀ id, r.data.Tells id (told id)) ∧
    (g.project r).2 =
      { g with nodes := g.nodes.map fun n => { n with annotations := told n.id } } ∧
    (g.project r).1.annotated = g.nodes.countP (fun n => !(told n.id).isEmpty) ∧
    (g.project r).1.skipped.Pairwise (· < ·) ∧
    (∀ id, id ∈ (g.project r).1.skipped ↔ r.data.Concerns id ∧ id ∉ g.nodeIds) ∧
    (∃ ids : List String, ids.Nodup ∧ (∀ id, id ∈ ids ↔ r.data.Concerns id) ∧
      (g.project r).1.annotated + (g.project r).1.skipped.length = ids.length) ∧
    (∀ other, g.SameBody other → other.project r = g.project r) ∧
    (g.project r).2.project r = g.project r := by
  have hids := h.wellFormed.distinct
  have hbody := g.sameBody_project r
  refine ⟨r.data.shownOn, r.data.tells_shownOn, ?_, ?_, ?_, ?_, ?_, ?_, hbody.project_eq r⟩
  · rw [← project_nodes hids r, ← hbody.edges, ← hbody.panel]
  · rw [project_summary]
    exact annotated_eq hids r.data
  · rw [project_summary]
    exact r.data.annotations.keys_ascending.filter _
  · intro id
    simp [project_summary, RunData.mem_keys_annotations]
  · refine ⟨r.data.annotations.keys, r.data.annotations.keys_nodup,
      fun id => RunData.mem_keys_annotations, ?_⟩
    rw [project_summary]
    exact countP_add_length_filter ..
  · exact fun other hother => hother.project_eq r

def exchangeReport : RunReport where
  data := {
    inputs := .ofList [
      ("q", .obj [("final_response", .str "")]),
      ("r", .obj [("final_response", .natural 42), ("response_content", .arr [])]),
      ("s", .obj [("final_response", .str "late")])]
    errors := .ofList [("q", .str "slow"), ("p", .null), ("s", .str "gone")] }

theorem exchange_project_exact :
    exchange.Reachable ∧ ∃ told : String → Annotations,
    (∀ id, exchangeReport.data.Tells id (told id)) ∧
    (exchange.project exchangeReport).2 =
      { exchange with nodes := exchange.nodes.map fun n => { n with annotations := told n.id } } ∧
    (exchange.project exchangeReport).2.nodes.map (·.annotations) =
      [{ error := some "slow" }, { response := some "42", content := some "42" }] ∧
    (exchange.project exchangeReport).1 = { annotated := 2, skipped := ["p", "s"] } ∧
    (exchange.project exchangeReport).2.project exchangeReport =
      exchange.project exchangeReport := by
  have hreachable : exchange.Reachable := .ofParts _ _
  obtain ⟨told, htold, hafter, -, -, -, -, -, hagain⟩ := hreachable.project_exact exchangeReport
  exact ⟨hreachable, told, htold, hafter, by decide +kernel, by decide +kernel, hagain⟩

end Graph

end NodeCanvas
