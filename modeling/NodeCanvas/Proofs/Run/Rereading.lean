import Mathlib.Tactic.Simproc.ExistsAndEq
import NodeCanvas.Plan.Basic
import NodeCanvas.Proofs.Json.Rereading
import NodeCanvas.Run.Report

namespace NodeCanvas

open Source (ofJson toJson?)
open Json (slots slot? kept)

namespace PlanNode

def values (n : PlanNode) : List (Option Json) := [
  some (.str n.registryKey), some (.ofDict n.parameters)]

theorem toJson_eq (n : PlanNode) : n.toJson = .record (slots fieldNames n.values) := rfl

theorem nodup_fieldNames : fieldNames.Nodup := by decide

theorem ofSource?_eq_some_iff {s : Source} {n : PlanNode} :
    ofSource? s = some n ↔ ∃ f, s.fields? fieldNames = some f ∧
      f.required? "type" Source.text? = some n.registryKey ∧
      f.required? "parameters" (Source.dict? toJson?) = some n.parameters := by
  cases n
  simp only [ofSource?, ↓Fields.bind_eq_some_iff, Option.pure_def, Option.some.injEq, mk.injEq,
    existsAndEq, and_true]

theorem rereads : Rereads ofSource? toJson where
  reread := by
    intro s n h
    obtain ⟨f, -, -, hparameters⟩ := ofSource?_eq_some_iff.mp h
    rw [toJson_eq]
    refine ofSource?_eq_some_iff.mpr ⟨_, Source.fields?_record nodup_fieldNames, ?_⟩
    simp only [Fields.required?, Fields.find?_written nodup_fieldNames]
    simp [slot?, fieldNames, values, Rereads.jsonDict.required hparameters]
  null_of_null := by rintro _ _ _ ⟨⟩

end PlanNode

namespace Endpoint

variable {side : String}

def values (e : Endpoint) : List (Option Json) := [some (.str e.node), some (.str e.port)]

theorem toJson_eq (e : Endpoint) : e.toJson side = .record (slots ["node", side] e.values) := rfl

theorem ofSource?_eq_some_iff {s : Source} {e : Endpoint} :
    ofSource? side s = some e ↔ ∃ f, s.fields? ["node", side] = some f ∧
      f.required? "node" Source.text? = some e.node ∧
      f.required? side Source.text? = some e.port := by
  cases e
  simp only [ofSource?, ↓Fields.bind_eq_some_iff, Option.pure_def, Option.some.injEq, mk.injEq,
    existsAndEq, and_true]

theorem rereads (h : "node" ≠ side) : Rereads (ofSource? side) (toJson side) where
  reread := by
    intro s e _
    have hnames : ["node", side].Nodup := by simp [h]
    rw [toJson_eq]
    refine ofSource?_eq_some_iff.mpr ⟨_, Source.fields?_record hnames, ?_⟩
    simp only [Fields.required?, Fields.find?_written hnames]
    simp [slot?, values, h]
  null_of_null := by rintro _ _ _ ⟨⟩

end Endpoint

namespace PlanEdge

def values (e : PlanEdge) : List (Option Json) := [
  some (e.source.toJson "output"), some (e.target.toJson "input")]

theorem toJson_eq (e : PlanEdge) : e.toJson = .record (slots fieldNames e.values) := rfl

theorem nodup_fieldNames : fieldNames.Nodup := by decide

theorem ofSource?_eq_some_iff {s : Source} {e : PlanEdge} :
    ofSource? s = some e ↔ ∃ f, s.fields? fieldNames = some f ∧
      f.required? "from" (Endpoint.ofSource? "output") = some e.source ∧
      f.required? "to" (Endpoint.ofSource? "input") = some e.target := by
  cases e
  simp only [ofSource?, ↓Fields.bind_eq_some_iff, Option.pure_def, Option.some.injEq, mk.injEq,
    existsAndEq, and_true]

theorem rereads : Rereads ofSource? toJson where
  reread := by
    intro s e h
    obtain ⟨f, -, hsource, htarget⟩ := ofSource?_eq_some_iff.mp h
    rw [toJson_eq]
    refine ofSource?_eq_some_iff.mpr ⟨_, Source.fields?_record nodup_fieldNames, ?_⟩
    simp only [Fields.required?, Fields.find?_written nodup_fieldNames]
    simp [slot?, fieldNames, values, (Endpoint.rereads (by decide)).required hsource,
      (Endpoint.rereads (by decide)).required htarget]
  null_of_null := by rintro _ _ _ ⟨⟩

end PlanEdge

namespace Plan

def values (p : Plan) : List (Option Json) := [
  some (.obj (p.nodes.entries.map fun entry => (entry.1, entry.2.toJson))),
  some (.arr (p.edges.map PlanEdge.toJson))]

theorem toJson_eq (p : Plan) : p.toJson = .record (slots fieldNames p.values) := rfl

theorem nodup_fieldNames : fieldNames.Nodup := by decide

theorem ofSource?_eq_some_iff {s : Source} {p : Plan} :
    ofSource? s = some p ↔ ∃ f, s.fields? fieldNames = some f ∧
      f.required? "nodes" (Source.dict? PlanNode.ofSource?) = some p.nodes ∧
      f.required? "edges" (Source.list? PlanEdge.ofSource?) = some p.edges := by
  cases p
  simp only [ofSource?, ↓Fields.bind_eq_some_iff, Option.pure_def, Option.some.injEq, mk.injEq,
    existsAndEq, and_true]

theorem rereads : Rereads ofSource? toJson where
  reread := by
    intro s p h
    obtain ⟨f, -, hnodes, hedges⟩ := ofSource?_eq_some_iff.mp h
    rw [toJson_eq]
    refine ofSource?_eq_some_iff.mpr ⟨_, Source.fields?_record nodup_fieldNames, ?_⟩
    simp only [Fields.required?, Fields.find?_written nodup_fieldNames]
    simp [slot?, fieldNames, values, PlanNode.rereads.dict.required hnodes,
      PlanEdge.rereads.list.required hedges]
  null_of_null := by rintro _ _ _ ⟨⟩

end Plan

namespace RunData

def values (d : RunData) : List (Option Json) := [
  some (.ofDict d.inputs), some (.ofDict d.errors), some (.texts d.executed)]

theorem toJson_eq (d : RunData) : d.toJson = .record (slots fieldNames d.values) := rfl

theorem nodup_fieldNames : fieldNames.Nodup := by decide

theorem ofSource?_eq_some_iff {s : Source} {d : RunData} :
    ofSource? s = some d ↔ ∃ f, s.fields? fieldNames = some f ∧
      f.given? "response_inputs" .empty (Source.dict? toJson?) = some d.inputs ∧
      f.given? "errors" .empty (Source.dict? toJson?) = some d.errors ∧
      f.given? "executed_nodes" [] (Source.list? Source.text?) = some d.executed := by
  cases d
  simp only [ofSource?, ↓Fields.bind_eq_some_iff, Option.pure_def, Option.some.injEq, mk.injEq,
    existsAndEq, and_true]

theorem rereads : Rereads ofSource? toJson where
  reread := by
    intro s d h
    obtain ⟨f, -, hinputs, herrors, hexecuted⟩ := ofSource?_eq_some_iff.mp h
    rw [toJson_eq]
    refine ofSource?_eq_some_iff.mpr ⟨_, Source.fields?_record nodup_fieldNames, ?_⟩
    simp only [Fields.given?, Fields.find?_written nodup_fieldNames]
    simp [slot?, fieldNames, values, Rereads.jsonDict.given rfl hinputs,
      Rereads.jsonDict.given rfl herrors, Rereads.texts.given rfl hexecuted]
  null_of_null := by rintro _ _ _ ⟨⟩

end RunData

namespace RunReport

def values (r : RunReport) : List (Option Json) := [
  some (.bool r.success), some r.data.toJson, r.error.map .str]

theorem toJson_eq (r : RunReport) : r.toJson = .record (slots fieldNames r.values) := by
  simp only [toJson, slots, fieldNames, values, Json.memberIf?_map]
  rfl

theorem nodup_fieldNames : fieldNames.Nodup := by decide

theorem ofSource?_eq_some_iff {s : Source} {r : RunReport} :
    ofSource? s = some r ↔ ∃ f, s.fields? fieldNames = some f ∧
      f.given? "success" true Source.flag? = some r.success ∧
      f.given? "data" {} RunData.ofSource? = some r.data ∧
      f.optional? "error" Source.text? = some r.error := by
  cases r
  simp only [ofSource?, ↓Fields.bind_eq_some_iff, Option.pure_def, Option.some.injEq, mk.injEq,
    existsAndEq, and_true]

theorem rereads : Rereads ofSource? toJson where
  reread := by
    intro s r h
    obtain ⟨f, -, -, hdata, -⟩ := ofSource?_eq_some_iff.mp h
    rw [toJson_eq]
    refine ofSource?_eq_some_iff.mpr ⟨_, Source.fields?_record nodup_fieldNames, ?_⟩
    simp only [Fields.given?, Fields.optional?_eq, Fields.find?_written nodup_fieldNames]
    have hempty := RunData.rereads.reread (.obj []) {} rfl
    simp [slot?, fieldNames, values, RunData.rereads.given hempty hdata]
  null_of_null := by rintro _ _ _ ⟨⟩

end RunReport

end NodeCanvas
