import NodeCanvas.Proofs.Document.Rereading
import NodeCanvas.Proofs.NodeType.Fitting
import NodeCanvas.Proofs.NodeType.Nesting

namespace NodeCanvas

open Source (depthLimit reread toJson?)
open Json (slot?)

theorem Position.nests : Nests (fun p => p.isFinite = true) ofSource? toJson := by
  refine .of_closed fieldNames values nodup_fieldNames (fun _ => rfl) toJson_eq rfl ?_
  intro p level source hfinite hlevel hsource
  rw [isFinite, Bool.and_eq_true] at hfinite
  simp only [ofSource?, ↓Fields.isSome_read_iff, hsource, Option.some.injEq, existsAndEq, true_and,
    Option.pure_def, Option.isSome_some, and_true, exists_and_right, ← Option.isSome_iff_exists]
  simp only [Fields.required?, Fields.find?_written nodup_fieldNames]
  simp [slot?, fieldNames, values, hlevel, hfinite]

/-- A position that is not finite is written with a `null`, which is not read as a number. -/
theorem Position.isFinite_of_isSome {p : Position} {level : ℕ}
    (h : (ofSource? (reread level p.toJson)).isSome) : p.isFinite = true := by
  obtain ⟨q, hq⟩ := Option.isSome_iff_exists.mp h
  obtain ⟨f, hf, hx, hy⟩ := ofSource?_eq_some_iff.mp hq
  rw [toJson_eq] at hf
  obtain rfl := Source.eq_of_fields?_reread nodup_fieldNames hf
  simp only [Fields.required?, Fields.find?_written nodup_fieldNames] at hx hy
  rw [isFinite, Bool.and_eq_true, ← isSome_double?_reread p.x, ← isSome_double?_reread p.y]
  exact ⟨Option.isSome_of_eq_some hx, Option.isSome_of_eq_some hy⟩

theorem Edge.nests : Nests (fun _ => True) ofSource? toJson := by
  refine .of_closed fieldNames values nodup_fieldNames (fun _ => rfl) toJson_eq rfl ?_
  intro e level source _ hlevel hsource
  have hhandle (handle : Option String) :
      (Fields.orNone? Source.text? (some (reread level (handleJson handle)))).isSome = true ∧
        (handleJson handle).Within level := by
    cases handle <;> exact ⟨rfl, hlevel⟩
  simp only [ofSource?, ↓Fields.isSome_read_iff, hsource, Option.some.injEq, existsAndEq, true_and,
    Option.pure_def, Option.isSome_some, and_true, exists_and_right, ← Option.isSome_iff_exists]
  simp only [Fields.required?, Fields.optional?_eq, Fields.find?_written nodup_fieldNames]
  simp [slot?, fieldNames, values, hlevel, hhandle]

theorem SavedNode.nests :
    Nests (fun n => n.type.Sound ∧ n.position.isFinite = true) ofSource? toJson := by
  refine .of_closed fieldNames values nodup_fieldNames (fun _ => rfl) toJson_eq rfl ?_
  rintro n level source ⟨htype, hfinite⟩ hlevel hsource
  have hcontent := @Source.fields?_reread level contentNames n.contentValues nodup_contentNames
  have hwithin := @Json.within_closedRecord level contentNames n.contentValues rfl
  rw [← contentJson_eq] at hcontent hwithin
  have hposition := Position.nests n.position level hfinite hlevel
  simp only [ofSource?, ↓Fields.isSome_read_iff, hsource, Option.some.injEq, existsAndEq, true_and,
    Option.pure_def, Option.isSome_some, and_true, exists_and_right, ← Option.isSome_iff_exists]
  simp only [Fields.required?, Fields.given?, Fields.optional?_eq,
    Fields.find?_written nodup_fieldNames]
  have hdata : slot? "data" fieldNames n.values = some n.contentJson := rfl
  rw [hdata, Option.map_some, Option.bind_some, hcontent]
  by_cases hroom : level + 1 < depthLimit
  · have htypes := NodeType.nests n.type (level + 1) htype hroom
    simp only [if_pos hroom, Option.some.injEq, existsAndEq, true_and,
      Fields.find?_written nodup_contentNames]
    simp [slot?, fieldNames, values, contentNames, contentValues, hlevel, hroom, hwithin, hposition,
      htypes, Nests.isSome_dict? hroom]
  · simp [values, hroom, hwithin]

theorem SavedNode.isFinite_of_isSome {n : SavedNode} {level : ℕ}
    (h : (ofSource? (reread level n.toJson)).isSome) : n.position.isFinite = true := by
  obtain ⟨m, hm⟩ := Option.isSome_iff_exists.mp h
  obtain ⟨f, hf, -, -, hposition, -⟩ := ofSource?_eq_some_iff.mp hm
  rw [toJson_eq] at hf
  obtain rfl := Source.eq_of_fields?_reread nodup_fieldNames hf
  simp only [Fields.given?, Fields.find?_written nodup_fieldNames] at hposition
  exact Position.isFinite_of_isSome (Option.isSome_of_eq_some hposition)

theorem Document.nests :
    Nests (fun d => ∀ n ∈ d.data.nodes, n.type.Sound ∧ n.position.isFinite = true)
      ofSource? toJson := by
  refine .of_closed fieldNames values nodup_fieldNames (fun _ => rfl) toJson_eq rfl ?_
  intro d level source hsound hlevel hsource
  have hnodes := SavedNode.nests.list d.data.nodes level hsound hlevel
  have hedges := Edge.nests.list d.data.edges level (fun _ _ => trivial) hlevel
  simp only [ofSource?, ↓Fields.isSome_read_iff, hsource, Option.some.injEq, existsAndEq, true_and,
    Option.pure_def, Option.isSome_some, and_true, exists_and_right, ← Option.isSome_iff_exists]
  simp only [Fields.given?, Fields.find?_written nodup_fieldNames]
  simp [slot?, fieldNames, values, hlevel, hnodes, hedges]

theorem Document.isFinite_of_isSome {d : Document} {level : ℕ}
    (h : (ofSource? (reread level d.toJson)).isSome) :
    ∀ n ∈ d.data.nodes, n.position.isFinite = true := by
  obtain ⟨e, he⟩ := Option.isSome_iff_exists.mp h
  obtain ⟨f, hf, hnodes, -⟩ := ofSource?_eq_some_iff.mp he
  rw [toJson_eq] at hf
  obtain rfl := Source.eq_of_fields?_reread nodup_fieldNames hf
  simp only [Fields.given?, Fields.find?_written nodup_fieldNames] at hnodes
  have hlist : (reread (level + 1) (.arr (d.data.nodes.map SavedNode.toJson))).list?
      SavedNode.ofSource? = some e.data.nodes := hnodes
  rw [Source.reread_arr] at hlist
  split at hlist
  · have hall := (Source.isSome_mapM _).mp (Option.isSome_of_eq_some hlist)
    rw [List.forall_mem_map, List.forall_mem_map] at hall
    exact fun n hn => SavedNode.isFinite_of_isSome (hall n hn)
  · cases hlist

/-- Nothing that the node holds is nested too deeply in a document. -/
def Node.Shallow (n : Node) : Prop :=
  n.type.toJson.Within 4 ∧ ∀ entry ∈ n.parameters.entries, entry.2.Within 5

theorem SavedNode.within_iff (n : SavedNode) : n.toJson.Within 2 ↔ n.toNode.Shallow := by
  have hposition : n.position.toJson.Within 3 := by
    rw [Position.toJson_eq, Json.within_closedRecord rfl]
    simp [Position.values, depthLimit]
  have hcontent : n.contentJson.Within 3 ↔ n.toNode.Shallow := by
    rw [contentJson_eq, Json.within_closedRecord rfl]
    simp [contentValues, Json.ofDict, Json.within_obj, Node.Shallow, toNode, depthLimit]
  rw [toJson_eq, Json.within_closedRecord rfl]
  simp [values, hposition, hcontent, depthLimit]

theorem Document.within_iff (d : Document) :
    d.toJson.Within 0 ↔ ∀ n ∈ d.data.nodes, n.toNode.Shallow := by
  have hedge (e : Edge) : e.toJson.Within 2 := by
    have hhandle (handle : Option String) : (Edge.handleJson handle).Within 3 := by
      cases handle <;> simp [Edge.handleJson, depthLimit]
    rw [Edge.toJson_eq, Json.within_closedRecord rfl]
    simp [Edge.values, hhandle, depthLimit]
  rw [toJson_eq, Json.within_closedRecord rfl]
  simp [values, Json.within_arr, hedge, SavedNode.within_iff, depthLimit]

/-- A node whose type is sound, and all whole numbers of which fit 64 bits. -/
structure Node.Known (n : Node) : Prop where
  type : n.type.Sound
  typeFits : n.type.toJson.Fits
  parameters : n.parameters.All Json.Fits

theorem SavedNode.fits {n : SavedNode} (h : n.toNode.Known) : n.toJson.Fits := by
  have hposition : n.position.toJson.Fits := by
    rw [Position.toJson_eq, Json.fits_closedRecord rfl]
    simp [Position.values]
  have htype : n.type.toJson.Fits := h.typeFits
  have hparameters : (Json.ofDict n.parameters).Fits := (Json.fits_obj _).mpr h.parameters
  have hcontent : n.contentJson.Fits := by
    rw [contentJson_eq, Json.fits_closedRecord rfl]
    simp [contentValues, htype, hparameters]
  rw [toJson_eq, Json.fits_closedRecord rfl]
  simp [values, hposition, hcontent]

theorem Edge.fits (e : Edge) : e.toJson.Fits := by
  have hhandle (handle : Option String) : (handleJson handle).Fits := by
    cases handle <;> simp [handleJson]
  rw [toJson_eq, Json.fits_closedRecord rfl]
  simp [values, hhandle]

namespace Document

variable {d : Document}

theorem fits (h : ∀ n ∈ d.data.nodes, n.toNode.Known) : d.toJson.Fits := by
  have hnodes : (Json.arr (d.data.nodes.map SavedNode.toJson)).Fits := by
    rw [Json.fits_arr, List.forall_mem_map]
    exact fun n hn => SavedNode.fits (h n hn)
  have hedges : (Json.arr (d.data.edges.map Edge.toJson)).Fits := by
    rw [Json.fits_arr, List.forall_mem_map]
    exact fun e _ => e.fits
  rw [toJson_eq, Json.fits_closedRecord rfl]
  simp [values, hnodes, hedges]

/-- The text of a document is read just if its nodes lie at finite positions and nothing in them is
nested too deeply. -/
theorem isSome_ofText?_toText (h : ∀ n ∈ d.data.nodes, n.toNode.Known) :
    (ofText? d.toText).isSome ↔
      ∀ n ∈ d.data.nodes, n.position.isFinite = true ∧ n.toNode.Shallow := by
  rw [ofText?, toText, Source.ofText?_pretty (fits h), Option.bind_some]
  constructor
  · intro hread
    have hfinite := isFinite_of_isSome hread
    have hread := (nests d 0 (fun n hn => ⟨(h n hn).type, hfinite n hn⟩) (by decide)).mp hread
    exact fun n hn => ⟨hfinite n hn, within_iff d |>.mp hread n hn⟩
  · intro hnodes
    refine (nests d 0 (fun n hn => ⟨(h n hn).type, (hnodes n hn).1⟩) (by decide)).mpr ?_
    exact (within_iff d).mpr fun n hn => (hnodes n hn).2

end Document

end NodeCanvas
