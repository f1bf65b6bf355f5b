import NodeCanvas.Proofs.NodeType.Rereading
import NodeCanvas.Workflow.Stored

namespace NodeCanvas

open Source (ofJson toJson?)
open Json (slots slot? kept)

namespace Position

def values (p : Position) : List (Option Json) := [some (.double p.x), some (.double p.y)]

theorem toJson_eq (p : Position) : p.toJson = .record (slots fieldNames p.values) := rfl

theorem nodup_fieldNames : fieldNames.Nodup := by decide

theorem ofSource?_eq_some_iff {s : Source} {p : Position} :
    ofSource? s = some p ↔ ∃ f, s.fields? fieldNames = some f ∧
      f.required? "x" Source.double? = some p.x ∧ f.required? "y" Source.double? = some p.y := by
  cases p
  simp only [ofSource?, ↓Fields.bind_eq_some_iff, Option.pure_def, Option.some.injEq, mk.injEq,
    existsAndEq, and_true]

theorem rereads : Rereads ofSource? toJson where
  reread := by
    intro s p h
    obtain ⟨f, -, hx, hy⟩ := ofSource?_eq_some_iff.mp h
    rw [toJson_eq]
    refine ofSource?_eq_some_iff.mpr ⟨_, Source.fields?_record nodup_fieldNames, ?_⟩
    simp only [Fields.required?, Fields.find?_written nodup_fieldNames]
    simp [slot?, fieldNames, values, Rereads.double.required hx, Rereads.double.required hy]
  null_of_null := by rintro _ _ _ ⟨⟩

end Position

namespace Edge

def values (e : Edge) : List (Option Json) := [
  some (.str e.id), some (.str e.source), some (.str e.target), some (handleJson e.sourceHandle),
  some (handleJson e.targetHandle)]

theorem toJson_eq (e : Edge) : e.toJson = .record (slots fieldNames e.values) := rfl

theorem nodup_fieldNames : fieldNames.Nodup := by decide

theorem ofSource?_eq_some_iff {s : Source} {e : Edge} :
    ofSource? s = some e ↔ ∃ f, s.fields? fieldNames = some f ∧
      f.required? "id" Source.text? = some e.id ∧
      f.required? "source" Source.text? = some e.source ∧
      f.required? "target" Source.text? = some e.target ∧
      f.optional? "sourceHandle" Source.text? = some e.sourceHandle ∧
      f.optional? "targetHandle" Source.text? = some e.targetHandle := by
  cases e
  simp only [ofSource?, ↓Fields.bind_eq_some_iff, Option.pure_def, Option.some.injEq, mk.injEq,
    existsAndEq, and_true]

theorem orNone?_handleJson (handle : Option String) :
    Fields.orNone? Source.text? (some (ofJson (handleJson handle))) = some handle := by
  cases handle <;> rfl

theorem ofSource?_ofJson (e : Edge) : ofSource? (ofJson e.toJson) = some e := by
  rw [toJson_eq]
  refine ofSource?_eq_some_iff.mpr ⟨_, Source.fields?_record nodup_fieldNames, ?_⟩
  simp only [Fields.required?, Fields.optional?_eq, Fields.find?_written nodup_fieldNames]
  simp [slot?, fieldNames, values, orNone?_handleJson]

theorem rereads : Rereads ofSource? toJson where
  reread := fun _ e _ => ofSource?_ofJson e
  null_of_null := by rintro _ _ _ ⟨⟩

end Edge

namespace SavedNode

def contentValues (n : SavedNode) : List (Option Json) := [
  some n.type.toJson, some (.ofDict n.parameters), n.annotations.response.map .str,
  n.annotations.content.map .str, n.annotations.error.map .str]

def values (n : SavedNode) : List (Option Json) := [
  some (.str n.id), some (.str n.kind), some n.position.toJson, some n.contentJson]

theorem contentJson_eq (n : SavedNode) :
    n.contentJson = .record (slots contentNames n.contentValues) := by
  simp only [contentJson, Annotations.members, slots, contentNames, contentValues,
    Json.memberIf?_map]
  rfl

theorem toJson_eq (n : SavedNode) : n.toJson = .record (slots fieldNames n.values) := rfl

theorem nodup_fieldNames : fieldNames.Nodup := by decide

theorem nodup_contentNames : contentNames.Nodup := by decide

theorem ofSource?_eq_some_iff {s : Source} {n : SavedNode} :
    ofSource? s = some n ↔ ∃ f, s.fields? fieldNames = some f ∧
      f.required? "id" Source.text? = some n.id ∧
      f.given? "type" customKind Source.text? = some n.kind ∧
      f.given? "position" .origin Position.ofSource? = some n.position ∧
      ∃ content, f.required? "data" (Source.fields? contentNames) = some content ∧
        content.required? "nodeSchema" NodeType.ofSource? = some n.type ∧
        content.given? "parameters" .empty (Source.dict? toJson?) = some n.parameters ∧
        content.optional? "response" Source.text? = some n.annotations.response ∧
        content.optional? "response_content" Source.text? = some n.annotations.content ∧
        content.optional? "error" Source.text? = some n.annotations.error := by
  obtain ⟨id, kind, position, type, parameters, ⟨response, content, error⟩⟩ := n
  constructor
  · intro h
    simp only [ofSource?, Option.bind_eq_bind, Option.bind_eq_some_iff] at h
    obtain ⟨f, hf, found, hfound, _, hid, _, hkind, _, hposition, _, htype, _, hparameters,
      _, hresponse, _, hcontent, _, herror, h⟩ := h
    cases h
    exact ⟨f, hf, hid, hkind, hposition, found, hfound, htype, hparameters, hresponse, hcontent,
      herror⟩
  · rintro ⟨f, hf, hid, hkind, hposition, found, hfound, htype, hparameters, hresponse, hcontent,
      herror⟩
    simp [ofSource?, hf, hid, hkind, hposition, hfound, htype, hparameters, hresponse, hcontent,
      herror]

theorem rereads : Rereads ofSource? toJson where
  reread := by
    intro s n h
    obtain ⟨f, -, -, -, hposition, content, -, htype, hparameters, -⟩ :=
      ofSource?_eq_some_iff.mp h
    rw [toJson_eq]
    have hcontent : Source.fields? contentNames (ofJson n.contentJson) =
        some (.written ofJson contentNames n.contentValues .empty) := by
      rw [contentJson_eq]
      exact Source.fields?_record nodup_contentNames
    refine ofSource?_eq_some_iff.mpr ⟨_, Source.fields?_record nodup_fieldNames, ?_⟩
    simp only [Fields.required?, Fields.given?, Fields.optional?_eq,
      Fields.find?_written nodup_fieldNames]
    simp only [slot?, fieldNames, values]
    refine ⟨rfl, rfl, Position.rereads.given rfl hposition, _, hcontent, ?_⟩
    simp only [Fields.find?_written nodup_contentNames]
    simp [slot?, contentNames, contentValues, NodeType.rereads.required htype,
      Rereads.jsonDict.given rfl hparameters]
  null_of_null := by rintro _ _ _ ⟨⟩

end SavedNode

namespace GraphData

def values (d : GraphData) : List (Option Json) := [
  some (.arr (d.nodes.map SavedNode.toJson)), some (.arr (d.edges.map Edge.toJson))]

theorem toJson_eq (d : GraphData) : d.toJson = .record (slots fieldNames d.values) := rfl

theorem nodup_fieldNames : fieldNames.Nodup := by decide

theorem ofSource?_eq_some_iff {s : Source} {d : GraphData} :
    ofSource? s = some d ↔ ∃ f, s.fields? fieldNames = some f ∧
      f.given? "nodes" [] (Source.list? SavedNode.ofSource?) = some d.nodes ∧
      f.given? "edges" [] (Source.list? Edge.ofSource?) = some d.edges := by
  cases d
  simp only [ofSource?, ↓Fields.bind_eq_some_iff, Option.pure_def, Option.some.injEq, mk.injEq,
    existsAndEq, and_true]

theorem rereads : Rereads ofSource? toJson where
  reread := by
    intro s d h
    obtain ⟨f, -, hnodes, hedges⟩ := ofSource?_eq_some_iff.mp h
    rw [toJson_eq]
    refine ofSource?_eq_some_iff.mpr ⟨_, Source.fields?_record nodup_fieldNames, ?_⟩
    simp only [Fields.given?, Fields.find?_written nodup_fieldNames]
    simp [slot?, fieldNames, values, SavedNode.rereads.list.given rfl hnodes,
      Edge.rereads.list.given rfl hedges]
  null_of_null := by rintro _ _ _ ⟨⟩

end GraphData

namespace Document

def values (d : Document) : List (Option Json) := [
  some (.arr (d.data.nodes.map SavedNode.toJson)), some (.arr (d.data.edges.map Edge.toJson)),
  some (.str d.timestamp), some (.str d.name)]

theorem toJson_eq (d : Document) : d.toJson = .record (slots fieldNames d.values) := rfl

theorem nodup_fieldNames : fieldNames.Nodup := by decide

theorem ofSource?_eq_some_iff {s : Source} {d : Document} :
    ofSource? s = some d ↔ ∃ f, s.fields? fieldNames = some f ∧
      f.given? "nodes" [] (Source.list? SavedNode.ofSource?) = some d.data.nodes ∧
      f.given? "edges" [] (Source.list? Edge.ofSource?) = some d.data.edges ∧
      f.given? "timestamp" "" Source.text? = some d.timestamp ∧
      f.given? "name" "" Source.text? = some d.name := by
  obtain ⟨⟨nodes, edges⟩, timestamp, name⟩ := d
  simp only [ofSource?, ↓Fields.bind_eq_some_iff, Option.pure_def, Option.some.injEq, mk.injEq,
    GraphData.mk.injEq, existsAndEq, and_true]

theorem rereads : Rereads ofSource? toJson where
  reread := by
    intro s d h
    obtain ⟨f, -, hnodes, hedges, -⟩ := ofSource?_eq_some_iff.mp h
    rw [toJson_eq]
    refine ofSource?_eq_some_iff.mpr ⟨_, Source.fields?_record nodup_fieldNames, ?_⟩
    simp only [Fields.given?, Fields.find?_written nodup_fieldNames]
    simp [slot?, fieldNames, values, SavedNode.rereads.list.given rfl hnodes,
      Edge.rereads.list.given rfl hedges]
  null_of_null := by rintro _ _ _ ⟨⟩

end Document

namespace StoredWorkflow

def values (w : StoredWorkflow) : List (Option Json) := [
  w.id, w.name.map .str, some w.data.toJson]

theorem toJson_eq (w : StoredWorkflow) : w.toJson = .record (slots fieldNames w.values) := by
  simp only [toJson, slots, fieldNames, values, Json.memberIf?_map]
  rfl

theorem nodup_fieldNames : fieldNames.Nodup := by decide

theorem ofSource?_eq_some_iff {s : Source} {w : StoredWorkflow} :
    ofSource? s = some w ↔ ∃ f, s.fields? fieldNames = some f ∧
      f.optional? "id" toJson? = some w.id ∧ f.optional? "name" Source.text? = some w.name ∧
      f.required? "data" GraphData.ofSource? = some w.data := by
  cases w
  simp only [ofSource?, ↓Fields.bind_eq_some_iff, Option.pure_def, Option.some.injEq, mk.injEq,
    existsAndEq, and_true]

theorem rereads : Rereads ofSource? toJson where
  reread := by
    intro s w h
    obtain ⟨f, -, hid, -, hdata⟩ := ofSource?_eq_some_iff.mp h
    rw [toJson_eq]
    refine ofSource?_eq_some_iff.mpr ⟨_, Source.fields?_record nodup_fieldNames, ?_⟩
    simp only [Fields.required?, Fields.optional?_eq, Fields.find?_written nodup_fieldNames]
    simp [slot?, fieldNames, values, Rereads.optional_json hid, GraphData.rereads.required hdata]
  null_of_null := by rintro _ _ _ ⟨⟩

end StoredWorkflow

namespace Listing

def values (l : Listing) : List (Option Json) := [
  some (.texts l.order), some (.obj (l.types.entries.map fun entry => (entry.1, entry.2.toJson))),
  some (.natural l.count)]

theorem toJson_eq (l : Listing) : l.toJson = .record (slots fieldNames l.values) := rfl

theorem nodup_fieldNames : fieldNames.Nodup := by decide

theorem ofSource?_eq_some_iff {s : Source} {l : Listing} :
    ofSource? s = some l ↔ ∃ f, s.fields? fieldNames = some f ∧
      f.given? "nodes" [] (Source.list? Source.text?) = some l.order ∧
      f.given? "schemas" .empty (Source.dict? NodeType.ofSource?) = some l.types ∧
      f.given? "total_count" 0 (Source.natural? 64) = some l.count := by
  cases l
  simp only [ofSource?, ↓Fields.bind_eq_some_iff, Option.pure_def, Option.some.injEq, mk.injEq,
    existsAndEq, and_true]

theorem rereads : Rereads ofSource? toJson where
  reread := by
    intro s l h
    obtain ⟨f, -, horder, htypes, hcount⟩ := ofSource?_eq_some_iff.mp h
    rw [toJson_eq]
    refine ofSource?_eq_some_iff.mpr ⟨_, Source.fields?_record nodup_fieldNames, ?_⟩
    simp only [Fields.given?, Fields.find?_written nodup_fieldNames]
    simp [slot?, fieldNames, values, Rereads.texts.given rfl horder,
      NodeType.rereads.dict.given rfl htypes,
      (Rereads.natural 64).given (natural?_ofJson (by decide)) hcount]
  null_of_null := by rintro _ _ _ ⟨⟩

end Listing

end NodeCanvas
