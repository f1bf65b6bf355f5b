import NodeCanvas.Proofs.Document.Rereading
import NodeCanvas.Proofs.Json.Places
import NodeCanvas.Proofs.Run.Rereading
import NodeCanvas.Proofs.Session.Rereading

namespace NodeCanvas

open Source (ofJson toJson?)
open Json (slots slot? kept)

/-- A record that keeps the keys which it does not declare. -/
def KeepsOthers {α : Type} (names : List String) (read : Source → Option α) (write : α → Json) :
    Prop :=
  ∀ s a key member, read s = some a → key ∉ names → s.member? key = some member →
    ∃ value, member.toJson? = some value ∧
      (ofJson (write a)).member? key = some (ofJson value)

/-- The keys that the object at a place does not declare are found there again, with the same
values. -/
def KeepsAt (path : List PathStep) (names : List String) (s written : Source) : Prop :=
  ∀ part key member, s.at? path = some part → key ∉ names → part.member? key = some member →
    ∃ value, member.toJson? = some value ∧
      (written.at? path).bind (·.member? key) = some (ofJson value)

theorem Carries.keepsAt {α β : Type} {path : List PathStep} {names : List String}
    {read : Source → Option α} {write : α → Json} {readPart : Source → Option β}
    {writePart : β → Json} (h : Carries path read write readPart writePart)
    (hothers : KeepsOthers names readPart writePart) {s : Source} {a : α}
    (hread : read s = some a) : KeepsAt path names s (ofJson (write a)) := by
  intro part key member hpart hkey hmember
  obtain ⟨b, hb, hwritten⟩ := h s a part hread hpart
  obtain ⟨value, hvalue, hkept⟩ := hothers part b key member hb hkey hmember
  refine ⟨value, hvalue, ?_⟩
  rw [hwritten, Option.bind_some, hkept]

theorem Styling.keepsOthers : KeepsOthers fieldNames ofSource? toJson := by
  intro s styling key member h hkey hmember
  obtain ⟨f, hf, -, -, -, -, -, -, -, -, hextra⟩ := ofSource?_eq_some_iff.mp h
  rw [toJson_eq]
  exact Source.member?_of_open hf hextra hkey hmember _

theorem Component.keepsOthers : KeepsOthers fieldNames ofSource? toJson := by
  intro s c key member h hkey hmember
  obtain ⟨f, hf, -, -, -, -, -, -, -, -, -, -, -, -, -, -, -, -, -, -, -, -, -, -, -, -, -, -, -, -,
    -, hextra⟩ := ofSource?_eq_some_iff.mp h
  rw [toJson_eq]
  exact Source.member?_of_open hf hextra hkey hmember _

theorem Group.keepsOthers : KeepsOthers fieldNames ofSource? toJson := by
  intro s g key member h hkey hmember
  obtain ⟨f, hf, -, -, -, -, -, -, hextra⟩ := ofSource?_eq_some_iff.mp h
  rw [toJson_eq]
  exact Source.member?_of_open hf hextra hkey hmember _

theorem Layout.keepsOthers : KeepsOthers fieldNames ofSource? toJson := by
  intro s l key member h hkey hmember
  obtain ⟨f, hf, -, -, -, -, -, hextra⟩ := ofSource?_eq_some_iff.mp h
  rw [toJson_eq]
  exact Source.member?_of_open hf hextra hkey hmember _

section Parts

theorem Group.carries_components : Carries [.field fieldNames "components"] ofSource? toJson
    (Source.list? Component.ofSource?)
    (fun components => .arr (components.map Component.toJson)) := by
  intro s g part h hpart
  rw [Source.at?_singleton] at hpart ⊢
  obtain ⟨f, hf, -, -, -, hcomponents, -, -, hextra⟩ := ofSource?_eq_some_iff.mp h
  obtain ⟨f', hf', hpart, -⟩ := Source.step?_field_eq_some_iff.mp hpart
  cases (Source.fields?_of_openFields? hf).symm.trans hf'
  refine ⟨g.components, Fields.read_of_given? hcomponents hpart, ?_⟩
  rw [toJson_eq]
  exact Source.step?_openRecord nodup_fieldNames (Rereads.others hf hextra).1 rfl
    (by rintro ⟨⟩)

theorem Layout.carries_groups : Carries [.field fieldNames "groups"] ofSource? toJson
    (Source.list? Group.ofSource?) (fun groups => .arr (groups.map Group.toJson)) := by
  intro s l part h hpart
  rw [Source.at?_singleton] at hpart ⊢
  obtain ⟨f, hf, -, -, hgroups, -, -, hextra⟩ := ofSource?_eq_some_iff.mp h
  obtain ⟨f', hf', hpart, -⟩ := Source.step?_field_eq_some_iff.mp hpart
  cases (Source.fields?_of_openFields? hf).symm.trans hf'
  refine ⟨l.groups, Fields.read_of_given? hgroups hpart, ?_⟩
  rw [toJson_eq]
  exact Source.step?_openRecord nodup_fieldNames (Rereads.others hf hextra).1 rfl
    (by rintro ⟨⟩)

namespace NodeType

theorem carries_styling : Carries [.field fieldNames "styling"] ofSource? toJson
    Styling.ofSource? Styling.toJson := by
  intro s t part h hpart
  rw [Source.at?_singleton] at hpart ⊢
  obtain ⟨f, hf, -, -, -, -, -, -, hstyling, -⟩ := ofSource?_eq_some_iff.mp h
  obtain ⟨f', hf', hpart, -⟩ := Source.step?_field_eq_some_iff.mp hpart
  cases hf.symm.trans hf'
  refine ⟨t.styling, Fields.read_of_given? hstyling hpart, ?_⟩
  rw [toJson_eq]
  exact Source.step?_record nodup_fieldNames rfl (by rintro ⟨⟩)

theorem carries_layout : Carries [.field fieldNames "ui_config"] ofSource? toJson
    Layout.ofSource? Layout.toJson := by
  intro s t part h hpart
  rw [Source.at?_singleton] at hpart ⊢
  obtain ⟨f, hf, -, -, -, -, -, -, -, hlayout⟩ := ofSource?_eq_some_iff.mp h
  obtain ⟨f', hf', hpart, hvalue⟩ := Source.step?_field_eq_some_iff.mp hpart
  cases hf.symm.trans hf'
  obtain ⟨l, hl, hread⟩ := Fields.read_of_optional? hlayout hpart hvalue
  refine ⟨l, hread, ?_⟩
  have hslot : slot? "ui_config" fieldNames t.values = some l.toJson := by
    simp [slot?, fieldNames, values, hl]
  rw [toJson_eq]
  exact Source.step?_record nodup_fieldNames hslot (by rintro ⟨⟩)

/-- The objects of a node type that keep keys. -/
inductive Presentation where
  | styling
  | layout
  | group (i : Nat)
  | component (i j : Nat)

namespace Presentation

def path : Presentation → List PathStep
  | .styling => [.field NodeType.fieldNames "styling"]
  | .layout => [.field NodeType.fieldNames "ui_config"]
  | .group i =>
      [.field NodeType.fieldNames "ui_config"] ++
        ([.field Layout.fieldNames "groups"] ++ [.item i])
  | .component i j =>
      [.field NodeType.fieldNames "ui_config"] ++
        ([.field Layout.fieldNames "groups"] ++ ([.item i] ++
          ([.field Group.fieldNames "components"] ++ [.item j])))

def names : Presentation → List String
  | .styling => Styling.fieldNames
  | .layout => Layout.fieldNames
  | .group _ => Group.fieldNames
  | .component _ _ => Component.fieldNames

end Presentation

/-- The presentation of the node type at a place keeps its keys. -/
def PresentationKept (place : List PathStep) (s written : Source) : Prop :=
  ∀ presentation : Presentation,
    KeepsAt (place ++ presentation.path) presentation.names s written

theorem presentationKept {α : Type} {place : List PathStep} {read : Source → Option α}
    {write : α → Json} (h : Carries place read write ofSource? toJson) {s : Source} {a : α}
    (hread : read s = some a) : PresentationKept place s (ofJson (write a)) := by
  intro presentation
  cases presentation with
  | styling => exact (h.append carries_styling).keepsAt Styling.keepsOthers hread
  | layout => exact (h.append carries_layout).keepsAt Layout.keepsOthers hread
  | group i =>
      have hgroup := Layout.carries_groups.append (Carries.item Group.ofSource? Group.toJson i)
      exact (h.append (carries_layout.append hgroup)).keepsAt Group.keepsOthers hread
  | component i j =>
      have hcomponent := Group.carries_components.append
        (Carries.item Component.ofSource? Component.toJson j)
      have hgroup := Layout.carries_groups.append
        ((Carries.item Group.ofSource? Group.toJson i).append hcomponent)
      exact (h.append (carries_layout.append hgroup)).keepsAt Component.keepsOthers hread

end NodeType

def SavedNode.typePath : List PathStep :=
  [.field fieldNames "data", .field contentNames "nodeSchema"]

theorem SavedNode.carries_type :
    Carries typePath ofSource? toJson NodeType.ofSource? NodeType.toJson := by
  intro s n part h hpart
  obtain ⟨f, hf, -, -, -, content, hcontent, htype, -⟩ := ofSource?_eq_some_iff.mp h
  obtain ⟨data, hdata, hpart⟩ := Option.bind_eq_some_iff.mp hpart
  rw [Source.at?_singleton] at hpart
  obtain ⟨f', hf', hdata, -⟩ := Source.step?_field_eq_some_iff.mp hdata
  cases hf.symm.trans hf'
  obtain ⟨content', hcontent', hpart, -⟩ := Source.step?_field_eq_some_iff.mp hpart
  have hsame : content' = content := by
    rw [Fields.read_of_required? hcontent hdata] at hcontent'
    exact (Option.some.inj hcontent').symm
  rw [hsame] at hpart
  refine ⟨n.type, Fields.read_of_required? htype hpart, ?_⟩
  have hslot : slot? "data" fieldNames n.values = some n.contentJson := rfl
  have hdata := Source.step?_record nodup_fieldNames hslot (by rintro ⟨⟩)
  rw [toJson_eq, typePath, Source.at?, hdata, Option.bind_some, Source.at?_singleton,
    contentJson_eq]
  exact Source.step?_record nodup_contentNames rfl (by rintro ⟨⟩)

theorem Document.carries_nodes : Carries [.field fieldNames "nodes"] ofSource? toJson
    (Source.list? SavedNode.ofSource?) (fun nodes => .arr (nodes.map SavedNode.toJson)) := by
  intro s d part h hpart
  rw [Source.at?_singleton] at hpart ⊢
  obtain ⟨f, hf, hnodes, -⟩ := ofSource?_eq_some_iff.mp h
  obtain ⟨f', hf', hpart, -⟩ := Source.step?_field_eq_some_iff.mp hpart
  cases hf.symm.trans hf'
  refine ⟨d.data.nodes, Fields.read_of_given? hnodes hpart, ?_⟩
  rw [toJson_eq]
  exact Source.step?_record nodup_fieldNames rfl (by rintro ⟨⟩)

theorem GraphData.carries_nodes : Carries [.field fieldNames "nodes"] ofSource? toJson
    (Source.list? SavedNode.ofSource?) (fun nodes => .arr (nodes.map SavedNode.toJson)) := by
  intro s d part h hpart
  rw [Source.at?_singleton] at hpart ⊢
  obtain ⟨f, hf, hnodes, -⟩ := ofSource?_eq_some_iff.mp h
  obtain ⟨f', hf', hpart, -⟩ := Source.step?_field_eq_some_iff.mp hpart
  cases hf.symm.trans hf'
  refine ⟨d.nodes, Fields.read_of_given? hnodes hpart, ?_⟩
  rw [toJson_eq]
  exact Source.step?_record nodup_fieldNames rfl (by rintro ⟨⟩)

theorem StoredWorkflow.carries_data : Carries [.field fieldNames "data"] ofSource? toJson
    GraphData.ofSource? GraphData.toJson := by
  intro s w part h hpart
  rw [Source.at?_singleton] at hpart ⊢
  obtain ⟨f, hf, -, -, hdata⟩ := ofSource?_eq_some_iff.mp h
  obtain ⟨f', hf', hpart, -⟩ := Source.step?_field_eq_some_iff.mp hpart
  cases hf.symm.trans hf'
  refine ⟨w.data, Fields.read_of_required? hdata hpart, ?_⟩
  rw [toJson_eq]
  exact Source.step?_record nodup_fieldNames rfl (by rintro ⟨⟩)

theorem Listing.carries_types : Carries [.field fieldNames "schemas"] ofSource? toJson
    (Source.dict? NodeType.ofSource?)
    (fun types => .obj (types.entries.map fun e => (e.1, e.2.toJson))) := by
  intro s l part h hpart
  rw [Source.at?_singleton] at hpart ⊢
  obtain ⟨f, hf, -, htypes, -⟩ := ofSource?_eq_some_iff.mp h
  obtain ⟨f', hf', hpart, -⟩ := Source.step?_field_eq_some_iff.mp hpart
  cases hf.symm.trans hf'
  refine ⟨l.types, Fields.read_of_given? htypes hpart, ?_⟩
  rw [toJson_eq]
  exact Source.step?_record nodup_fieldNames rfl (by rintro ⟨⟩)

end Parts

/-- Whatever is read from a document is read again from its written form, and the presentation of
node types keeps the keys that it does not declare. -/
theorem written_stable (s : Source) :
    (∀ d, Document.ofSource? s = some d → Document.ofSource? (ofJson d.toJson) = some d ∧
      ∀ place, NodeType.PresentationKept
        ([.field Document.fieldNames "nodes"] ++ ([.item place] ++ SavedNode.typePath))
        s (ofJson d.toJson)) ∧
    (∀ t, NodeType.ofSource? s = some t → NodeType.ofSource? (ofJson t.toJson) = some t ∧
      NodeType.PresentationKept [] s (ofJson t.toJson)) ∧
    (∀ l, Listing.ofSource? s = some l → Listing.ofSource? (ofJson l.toJson) = some l ∧
      ∀ key, NodeType.PresentationKept
        ([.field Listing.fieldNames "schemas"] ++ [.entry key]) s (ofJson l.toJson)) ∧
    (∀ w, StoredWorkflow.ofSource? s = some w →
      StoredWorkflow.ofSource? (ofJson w.toJson) = some w ∧
      ∀ place, NodeType.PresentationKept
        ([.field StoredWorkflow.fieldNames "data"] ++
          ([.field GraphData.fieldNames "nodes"] ++ ([.item place] ++ SavedNode.typePath)))
        s (ofJson w.toJson)) ∧
    (∀ p, Plan.ofSource? s = some p → Plan.ofSource? (ofJson p.toJson) = some p) ∧
    (∀ r, RunReport.ofSource? s = some r → RunReport.ofSource? (ofJson r.toJson) = some r) ∧
    (∀ e, Event.ofSource? s = some e → Event.ofSource? (ofJson e.toJson) = some e) := by
  have htype (place : Nat) := (Carries.item SavedNode.ofSource? SavedNode.toJson place).append
    SavedNode.carries_type
  refine ⟨?_, ?_, ?_, ?_, ?_, ?_, ?_⟩
  · intro d h
    refine ⟨Document.rereads.reread s d h, fun place => ?_⟩
    exact NodeType.presentationKept (Document.carries_nodes.append (htype place)) h
  · intro t h
    exact ⟨NodeType.rereads.reread s t h, NodeType.presentationKept (Carries.nil _ _) h⟩
  · intro l h
    refine ⟨Listing.rereads.reread s l h, fun key => ?_⟩
    exact NodeType.presentationKept
      (Listing.carries_types.append (Carries.entry NodeType.ofSource? NodeType.toJson key)) h
  · intro w h
    refine ⟨StoredWorkflow.rereads.reread s w h, fun place => ?_⟩
    exact NodeType.presentationKept
      (StoredWorkflow.carries_data.append (GraphData.carries_nodes.append (htype place))) h
  · exact Plan.rereads.reread s
  · exact RunReport.rereads.reread s
  · exact Event.rereads.reread s

def lamp : Source := .obj [(some "node_id", .str "lamp"), (some "name", .str "Lamp"),
  (some "styling", .obj [(some "icon", .str "bulb"), (some "glow", .bool true)])]

/-- Lamps as a document and as a workflow. It is read as a report and as an event too, for what
they declare. -/
def lamps : Source :=
  let nodes : Source := .arr [.obj [(some "id", .str "lamp_1"),
    (some "data", .obj [(some "nodeSchema", lamp)])]]
  .obj [(some "nodes", nodes), (some "data", .obj [(some "nodes", nodes)]),
    (some "type", .str "panelOpened"), (some "nodeId", .str "lamp_1")]

def lampListing : Source := .obj [(some "schemas", .obj [(some "lamp", lamp)])]

def blankPlan : Source := .obj [(some "nodes", .obj []), (some "edges", .arr [])]

theorem lamp_stable :
    (∃ d, Document.ofSource? lamps = some d ∧ Document.ofSource? (ofJson d.toJson) = some d ∧
      ((ofJson d.toJson).at? ([.field Document.fieldNames "nodes"] ++ ([.item 0] ++
        SavedNode.typePath) ++ [.field NodeType.fieldNames "styling"])).bind (·.member? "glow") =
          some (.bool true)) ∧
    (∃ t, NodeType.ofSource? lamp = some t ∧ NodeType.ofSource? (ofJson t.toJson) = some t) ∧
    (∃ l, Listing.ofSource? lampListing = some l ∧ Listing.ofSource? (ofJson l.toJson) = some l) ∧
    (∃ w, StoredWorkflow.ofSource? lamps = some w ∧
      StoredWorkflow.ofSource? (ofJson w.toJson) = some w) ∧
    (∃ p, Plan.ofSource? blankPlan = some p ∧ Plan.ofSource? (ofJson p.toJson) = some p) ∧
    (∃ r, RunReport.ofSource? lamps = some r ∧ RunReport.ofSource? (ofJson r.toJson) = some r) ∧
    (∃ e, Event.ofSource? lamps = some e ∧ Event.ofSource? (ofJson e.toJson) = some e) := by
  have hread {α : Type} {read : Source → Option α} {s : Source} (h : (read s).isSome = true) :=
    Option.isSome_iff_exists.mp h
  obtain ⟨hdocument, -, -, hworkflow, -, hreport, hevent⟩ := written_stable lamps
  refine ⟨?_, ?_, ?_, ?_, ?_, ?_, ?_⟩
  · obtain ⟨d, hd⟩ := hread (show (Document.ofSource? lamps).isSome by decide +kernel)
    obtain ⟨hagain, hkept⟩ := hdocument d hd
    obtain ⟨value, hvalue, hkept⟩ := hkept 0 .styling _ "glow" (.bool true)
      rfl (by decide) rfl
    cases hvalue
    exact ⟨d, hd, hagain, hkept⟩
  · obtain ⟨t, ht⟩ := hread (show (NodeType.ofSource? lamp).isSome by decide +kernel)
    exact ⟨t, ht, ((written_stable lamp).2.1 t ht).1⟩
  · obtain ⟨l, hl⟩ := hread (show (Listing.ofSource? lampListing).isSome by decide +kernel)
    exact ⟨l, hl, ((written_stable lampListing).2.2.1 l hl).1⟩
  · obtain ⟨w, hw⟩ := hread (show (StoredWorkflow.ofSource? lamps).isSome by decide +kernel)
    exact ⟨w, hw, (hworkflow w hw).1⟩
  · obtain ⟨p, hp⟩ := hread (show (Plan.ofSource? blankPlan).isSome by decide +kernel)
    exact ⟨p, hp, (written_stable blankPlan).2.2.2.2.1 p hp⟩
  · obtain ⟨r, hr⟩ := hread (show (RunReport.ofSource? lamps).isSome by decide +kernel)
    exact ⟨r, hr, hreport r hr⟩
  · obtain ⟨e, he⟩ := hread (show (Event.ofSource? lamps).isSome by decide +kernel)
    exact ⟨e, he, hevent e he⟩

end NodeCanvas
