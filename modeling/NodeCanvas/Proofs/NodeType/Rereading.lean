import Mathlib.Tactic.Simproc.ExistsAndEq
import NodeCanvas.Proofs.Json.Rereading

namespace NodeCanvas

open Source (ofJson toJson?)
open Json (slots slot? kept)

namespace InputPort

def values (p : InputPort) : List (Option Json) := [
  some (.str p.name), some (.str p.dataType), some (.str p.description), some (.bool p.required),
  p.default?]

theorem toJson_eq (p : InputPort) : p.toJson = .record (slots fieldNames p.values) := rfl

theorem nodup_fieldNames : fieldNames.Nodup := by decide

theorem ofSource?_eq_some_iff {s : Source} {p : InputPort} :
    ofSource? s = some p ↔ ∃ f, s.fields? fieldNames = some f ∧
      f.required? "name" Source.text? = some p.name ∧
      f.required? "type" Source.text? = some p.dataType ∧
      f.given? "description" "" Source.text? = some p.description ∧
      f.given? "required" false Source.flag? = some p.required ∧
      f.optional? "default_value" toJson? = some p.default? := by
  cases p
  simp only [ofSource?, ↓Fields.bind_eq_some_iff, Option.pure_def, Option.some.injEq, mk.injEq,
    existsAndEq, and_true]

theorem rereads : Rereads ofSource? toJson where
  reread := by
    intro s p h
    obtain ⟨f, -, -, -, -, -, hdefault⟩ := ofSource?_eq_some_iff.mp h
    rw [toJson_eq]
    refine ofSource?_eq_some_iff.mpr ⟨_, Source.fields?_record nodup_fieldNames, ?_⟩
    simp only [Fields.required?, Fields.given?, Fields.optional?_eq,
      Fields.find?_written nodup_fieldNames]
    simp [slot?, fieldNames, values, Rereads.optional_json hdefault]
  null_of_null := by rintro _ _ _ ⟨⟩

end InputPort

namespace OutputPort

def values (p : OutputPort) : List (Option Json) := [
  some (.str p.name), some (.str p.dataType), some (.str p.description)]

theorem toJson_eq (p : OutputPort) : p.toJson = .record (slots fieldNames p.values) := rfl

theorem nodup_fieldNames : fieldNames.Nodup := by decide

theorem ofSource?_eq_some_iff {s : Source} {p : OutputPort} :
    ofSource? s = some p ↔ ∃ f, s.fields? fieldNames = some f ∧
      f.required? "name" Source.text? = some p.name ∧
      f.required? "type" Source.text? = some p.dataType ∧
      f.given? "description" "" Source.text? = some p.description := by
  cases p
  simp only [ofSource?, ↓Fields.bind_eq_some_iff, Option.pure_def, Option.some.injEq, mk.injEq,
    existsAndEq, and_true]

theorem rereads : Rereads ofSource? toJson where
  reread := by
    intro s p _
    rw [toJson_eq]
    refine ofSource?_eq_some_iff.mpr ⟨_, Source.fields?_record nodup_fieldNames, ?_⟩
    simp only [Fields.required?, Fields.given?, Fields.find?_written nodup_fieldNames]
    simp [slot?, fieldNames, values]
  null_of_null := by rintro _ _ _ ⟨⟩

end OutputPort

namespace Parameter

def values (p : Parameter) : List (Option Json) := [
  some (.str p.name), some (.str p.dataType), some (.str p.description), some (.bool p.required),
  p.default?, p.choices.map .texts]

theorem toJson_eq (p : Parameter) : p.toJson = .record (slots fieldNames p.values) := by
  simp only [toJson, slots, fieldNames, values, Json.memberIf?_map]
  rfl

theorem nodup_fieldNames : fieldNames.Nodup := by decide

theorem ofSource?_eq_some_iff {s : Source} {p : Parameter} :
    ofSource? s = some p ↔ ∃ f, s.fields? fieldNames = some f ∧
      f.required? "name" Source.text? = some p.name ∧
      f.required? "type" Source.text? = some p.dataType ∧
      f.given? "description" "" Source.text? = some p.description ∧
      f.given? "required" false Source.flag? = some p.required ∧
      f.optional? "default_value" toJson? = some p.default? ∧
      f.optional? "options" (Source.list? Source.text?) = some p.choices := by
  cases p
  simp only [ofSource?, ↓Fields.bind_eq_some_iff, Option.pure_def, Option.some.injEq, mk.injEq,
    existsAndEq, and_true]

theorem rereads : Rereads ofSource? toJson where
  reread := by
    intro s p h
    obtain ⟨f, -, -, -, -, -, hdefault, hchoices⟩ := ofSource?_eq_some_iff.mp h
    rw [toJson_eq]
    refine ofSource?_eq_some_iff.mpr ⟨_, Source.fields?_record nodup_fieldNames, ?_⟩
    simp only [Fields.required?, Fields.given?, Fields.optional?_eq,
      Fields.find?_written nodup_fieldNames]
    simp [slot?, fieldNames, values, Rereads.optional_json hdefault,
      Rereads.texts.optional hchoices]
  null_of_null := by rintro _ _ _ ⟨⟩

end Parameter

namespace Styling

def values (s : Styling) : List (Option Json) := [
  s.icon.map .str, s.backgroundColor.map .str, s.borderColor.map .str, s.textColor.map .str,
  s.subtitle.map .str, s.shape.map .str, s.width.map .double, s.height.map .double]

theorem toJson_eq (s : Styling) :
    s.toJson = .record (slots fieldNames s.values ++ kept s.extra) := by
  simp only [toJson, slots, fieldNames, values, Json.memberIf?_map]

theorem nodup_fieldNames : fieldNames.Nodup := by decide

theorem ofSource?_eq_some_iff {s : Source} {styling : Styling} :
    ofSource? s = some styling ↔ ∃ f, s.openFields? fieldNames = some f ∧
      f.optional? "icon" Source.text? = some styling.icon ∧
      f.optional? "background_color" Source.text? = some styling.backgroundColor ∧
      f.optional? "border_color" Source.text? = some styling.borderColor ∧
      f.optional? "text_color" Source.text? = some styling.textColor ∧
      f.optional? "subtitle" Source.text? = some styling.subtitle ∧
      f.optional? "shape" Source.text? = some styling.shape ∧
      f.optional? "width" Source.double? = some styling.width ∧
      f.optional? "height" Source.double? = some styling.height ∧
      f.others? = some styling.extra := by
  cases styling
  simp only [ofSource?, ↓Fields.bind_eq_some_iff, Option.pure_def, Option.some.injEq, mk.injEq,
    existsAndEq, and_true]

theorem rereads : Rereads ofSource? toJson where
  reread := by
    intro s styling h
    obtain ⟨f, hf, -, -, -, -, -, -, hwidth, hheight, hextra⟩ := ofSource?_eq_some_iff.mp h
    obtain ⟨hkeys, hothers⟩ := Rereads.others hf hextra
    rw [toJson_eq]
    refine ofSource?_eq_some_iff.mpr ⟨_, Source.openFields?_record nodup_fieldNames hkeys, ?_⟩
    simp only [Fields.optional?_eq, Fields.find?_written nodup_fieldNames, hothers]
    simp [slot?, fieldNames, values, Rereads.double.optional hwidth,
      Rereads.double.optional hheight]
  null_of_null := by rintro _ _ _ ⟨⟩

end Styling

namespace Choice

def values (c : Choice) : List (Option Json) := [
  some (.str c.value), some (.str c.label), (if c.disabled then some true else none).map .bool]

theorem toJson_eq (c : Choice) : c.toJson = .record (slots fieldNames c.values) := by
  simp only [toJson, slots, fieldNames, values, Json.memberIf?_map]
  rfl

theorem nodup_fieldNames : fieldNames.Nodup := by decide

theorem ofSource?_eq_some_iff {s : Source} {c : Choice} :
    ofSource? s = some c ↔ ∃ f, s.fields? fieldNames = some f ∧
      f.required? "value" Source.text? = some c.value ∧
      f.required? "label" Source.text? = some c.label ∧
      f.given? "disabled" false Source.flag? = some c.disabled := by
  cases c
  simp only [ofSource?, ↓Fields.bind_eq_some_iff, Option.pure_def, Option.some.injEq, mk.injEq,
    existsAndEq, and_true]

theorem rereads : Rereads ofSource? toJson where
  reread := by
    intro s c _
    rw [toJson_eq]
    refine ofSource?_eq_some_iff.mpr ⟨_, Source.fields?_record nodup_fieldNames, ?_⟩
    simp only [Fields.required?, Fields.given?, Fields.find?_written nodup_fieldNames]
    cases hdisabled : c.disabled <;> simp [slot?, fieldNames, values, hdisabled]
  null_of_null := by rintro _ _ _ ⟨⟩

end Choice

namespace ChoiceSource

def values (c : ChoiceSource) : List (Option Json) := [
  some (.str c.family), c.dependsOn.map .str]

theorem toJson_eq (c : ChoiceSource) : c.toJson = .record (slots fieldNames c.values) := by
  simp only [toJson, slots, fieldNames, values, Json.memberIf?_map]
  rfl

theorem nodup_fieldNames : fieldNames.Nodup := by decide

theorem ofSource?_eq_some_iff {s : Source} {c : ChoiceSource} :
    ofSource? s = some c ↔ ∃ f, s.fields? fieldNames = some f ∧
      f.required? "family" Source.text? = some c.family ∧
      f.optional? "depends_on" Source.text? = some c.dependsOn := by
  cases c
  simp only [ofSource?, ↓Fields.bind_eq_some_iff, Option.pure_def, Option.some.injEq, mk.injEq,
    existsAndEq, and_true]

theorem rereads : Rereads ofSource? toJson where
  reread := by
    intro s c _
    rw [toJson_eq]
    refine ofSource?_eq_some_iff.mpr ⟨_, Source.fields?_record nodup_fieldNames, ?_⟩
    simp only [Fields.required?, Fields.optional?_eq, Fields.find?_written nodup_fieldNames]
    simp [slot?, fieldNames, values]
  null_of_null := by rintro _ _ _ ⟨⟩

end ChoiceSource

namespace Component

def values (c : Component) : List (Option Json) := [
  some (.str c.tag), some (.str c.name), some (.str c.label), c.description.map .str,
  some (.bool c.required), c.default?, c.placeholder.map .str, some (.bool c.disabled),
  some (.bool c.visible), c.rows.map .natural, c.minLength.map .natural,
  c.maxLength.map .natural, c.pattern.map .str, c.minValue.map .double, c.maxValue.map .double,
  c.increment.map .double, c.minDate.map .str, c.maxDate.map .str,
  c.maxSelections.map .natural, c.accept.map .str, some (.bool c.multiple),
  c.choices.map fun choices => .arr (choices.map Choice.toJson),
  c.source.map ChoiceSource.toJson, c.checkedValue, c.uncheckedValue, c.onValue, c.offValue,
  c.text.map .str, c.buttonText.map .str]

theorem toJson_eq (c : Component) :
    c.toJson = .record (slots fieldNames c.values ++ kept c.extra) := by
  simp only [toJson, slots, fieldNames, values, Json.memberIf?_map]
  rfl

theorem nodup_fieldNames : fieldNames.Nodup := by decide

theorem ofSource?_eq_some_iff {s : Source} {c : Component} :
    ofSource? s = some c ↔ ∃ f, s.openFields? fieldNames = some f ∧
      f.required? "type" Source.text? = some c.tag ∧
      f.required? "name" Source.text? = some c.name ∧
      f.given? "label" "" Source.text? = some c.label ∧
      f.optional? "description" Source.text? = some c.description ∧
      f.given? "required" false Source.flag? = some c.required ∧
      f.optional? "default_value" toJson? = some c.default? ∧
      f.optional? "placeholder" Source.text? = some c.placeholder ∧
      f.given? "disabled" false Source.flag? = some c.disabled ∧
      f.given? "visible" true Source.flag? = some c.visible ∧
      f.optional? "rows" (Source.natural? 32) = some c.rows ∧
      f.optional? "min_length" (Source.natural? 64) = some c.minLength ∧
      f.optional? "max_length" (Source.natural? 64) = some c.maxLength ∧
      f.optional? "pattern" Source.text? = some c.pattern ∧
      f.optional? "min_value" Source.double? = some c.minValue ∧
      f.optional? "max_value" Source.double? = some c.maxValue ∧
      f.optional? "step" Source.double? = some c.increment ∧
      f.optional? "min_date" Source.text? = some c.minDate ∧
      f.optional? "max_date" Source.text? = some c.maxDate ∧
      f.optional? "max_selections" (Source.natural? 64) = some c.maxSelections ∧
      f.optional? "accept" Source.text? = some c.accept ∧
      f.given? "multiple" false Source.flag? = some c.multiple ∧
      f.optional? "options" (Source.list? Choice.ofSource?) = some c.choices ∧
      f.optional? "options_source" ChoiceSource.ofSource? = some c.source ∧
      f.optional? "checked_value" toJson? = some c.checkedValue ∧
      f.optional? "unchecked_value" toJson? = some c.uncheckedValue ∧
      f.optional? "on_value" toJson? = some c.onValue ∧
      f.optional? "off_value" toJson? = some c.offValue ∧
      f.optional? "text" Source.text? = some c.text ∧
      f.optional? "button_text" Source.text? = some c.buttonText ∧
      f.others? = some c.extra := by
  cases c
  simp only [ofSource?, ↓Fields.bind_eq_some_iff, Option.pure_def, Option.some.injEq, mk.injEq,
    existsAndEq, and_true]

theorem rereads : Rereads ofSource? toJson where
  reread := by
    intro s c h
    obtain ⟨f, hf, -, -, -, -, -, hdefault, -, -, -, hrows, hmin, hmax, -, hleast, hmost, hstep,
      -, -, hselections, -, -, hchoices, hsource, hchecked, hunchecked, hon, hoff, -, -, hextra⟩ :=
      ofSource?_eq_some_iff.mp h
    obtain ⟨hkeys, hothers⟩ := Rereads.others hf hextra
    rw [toJson_eq]
    refine ofSource?_eq_some_iff.mpr ⟨_, Source.openFields?_record nodup_fieldNames hkeys, ?_⟩
    simp only [Fields.required?, Fields.given?, Fields.optional?_eq,
      Fields.find?_written nodup_fieldNames, hothers]
    simp [slot?, fieldNames, values, Rereads.optional_json hdefault,
      (Rereads.natural _).optional hrows, (Rereads.natural _).optional hmin,
      (Rereads.natural _).optional hmax, (Rereads.natural _).optional hselections,
      Rereads.double.optional hleast, Rereads.double.optional hmost,
      Rereads.double.optional hstep, Choice.rereads.list.optional hchoices,
      ChoiceSource.rereads.optional hsource, Rereads.optional_json hchecked,
      Rereads.optional_json hunchecked, Rereads.optional_json hon, Rereads.optional_json hoff]
  null_of_null := by rintro _ _ _ ⟨⟩

end Component

namespace Group

def values (g : Group) : List (Option Json) := [
  some (.str g.name), some (.str g.label), g.description.map .str,
  some (.arr (g.components.map Component.toJson)), some (.bool g.collapsible),
  some (.bool g.collapsed)]

theorem toJson_eq (g : Group) : g.toJson = .record (slots fieldNames g.values ++ kept g.extra) := by
  simp only [toJson, slots, fieldNames, values, Json.memberIf?_map]
  rfl

theorem nodup_fieldNames : fieldNames.Nodup := by decide

theorem ofSource?_eq_some_iff {s : Source} {g : Group} :
    ofSource? s = some g ↔ ∃ f, s.openFields? fieldNames = some f ∧
      f.required? "name" Source.text? = some g.name ∧
      f.given? "label" "" Source.text? = some g.label ∧
      f.optional? "description" Source.text? = some g.description ∧
      f.given? "components" [] (Source.list? Component.ofSource?) = some g.components ∧
      f.given? "collapsible" false Source.flag? = some g.collapsible ∧
      f.given? "collapsed" false Source.flag? = some g.collapsed ∧
      f.others? = some g.extra := by
  cases g
  simp only [ofSource?, ↓Fields.bind_eq_some_iff, Option.pure_def, Option.some.injEq, mk.injEq,
    existsAndEq, and_true]

theorem rereads : Rereads ofSource? toJson where
  reread := by
    intro s g h
    obtain ⟨f, hf, -, -, -, hcomponents, -, -, hextra⟩ := ofSource?_eq_some_iff.mp h
    obtain ⟨hkeys, hothers⟩ := Rereads.others hf hextra
    rw [toJson_eq]
    refine ofSource?_eq_some_iff.mpr ⟨_, Source.openFields?_record nodup_fieldNames hkeys, ?_⟩
    simp only [Fields.required?, Fields.given?, Fields.optional?_eq,
      Fields.find?_written nodup_fieldNames, hothers]
    simp [slot?, fieldNames, values, Component.rereads.list.given rfl hcomponents]
  null_of_null := by rintro _ _ _ ⟨⟩

end Group

namespace Layout

def values (l : Layout) : List (Option Json) := [
  some (.str l.nodeType), some (.str l.nodeName), some (.arr (l.groups.map Group.toJson)),
  l.arrangement.map .str, l.columns.map .natural]

theorem toJson_eq (l : Layout) :
    l.toJson = .record (slots fieldNames l.values ++ kept l.extra) := by
  simp only [toJson, slots, fieldNames, values, Json.memberIf?_map]
  rfl

theorem nodup_fieldNames : fieldNames.Nodup := by decide

theorem ofSource?_eq_some_iff {s : Source} {l : Layout} :
    ofSource? s = some l ↔ ∃ f, s.openFields? fieldNames = some f ∧
      f.given? "node_id" "" Source.text? = some l.nodeType ∧
      f.given? "node_name" "" Source.text? = some l.nodeName ∧
      f.given? "groups" [] (Source.list? Group.ofSource?) = some l.groups ∧
      f.optional? "layout" Source.text? = some l.arrangement ∧
      f.optional? "columns" (Source.natural? 32) = some l.columns ∧
      f.others? = some l.extra := by
  cases l
  simp only [ofSource?, ↓Fields.bind_eq_some_iff, Option.pure_def, Option.some.injEq, mk.injEq,
    existsAndEq, and_true]

theorem rereads : Rereads ofSource? toJson where
  reread := by
    intro s l h
    obtain ⟨f, hf, -, -, hgroups, -, hcolumns, hextra⟩ := ofSource?_eq_some_iff.mp h
    obtain ⟨hkeys, hothers⟩ := Rereads.others hf hextra
    rw [toJson_eq]
    refine ofSource?_eq_some_iff.mpr ⟨_, Source.openFields?_record nodup_fieldNames hkeys, ?_⟩
    simp only [Fields.given?, Fields.optional?_eq, Fields.find?_written nodup_fieldNames, hothers]
    simp [slot?, fieldNames, values, Group.rereads.list.given rfl hgroups,
      (Rereads.natural _).optional hcolumns]
  null_of_null := by rintro _ _ _ ⟨⟩

end Layout

namespace NodeType

def values (t : NodeType) : List (Option Json) := [
  some (.str t.key), some (.str t.name), some (.str t.description),
  some (.arr (t.inputs.map InputPort.toJson)), some (.arr (t.outputs.map OutputPort.toJson)),
  some (.arr (t.parameters.map Parameter.toJson)), some t.styling.toJson,
  t.layout.map Layout.toJson]

theorem toJson_eq (t : NodeType) : t.toJson = .record (slots fieldNames t.values) := by
  simp only [toJson, slots, fieldNames, values, Json.memberIf?_map]
  rfl

theorem nodup_fieldNames : fieldNames.Nodup := by decide

theorem ofSource?_eq_some_iff {s : Source} {t : NodeType} :
    ofSource? s = some t ↔ ∃ f, s.fields? fieldNames = some f ∧
      f.required? "node_id" Source.text? = some t.key ∧
      f.required? "name" Source.text? = some t.name ∧
      f.given? "description" "" Source.text? = some t.description ∧
      f.given? "inputs" [] (Source.list? InputPort.ofSource?) = some t.inputs ∧
      f.given? "outputs" [] (Source.list? OutputPort.ofSource?) = some t.outputs ∧
      f.given? "parameters" [] (Source.list? Parameter.ofSource?) = some t.parameters ∧
      f.given? "styling" {} Styling.ofSource? = some t.styling ∧
      f.optional? "ui_config" Layout.ofSource? = some t.layout := by
  cases t
  simp only [ofSource?, ↓Fields.bind_eq_some_iff, Option.pure_def, Option.some.injEq, mk.injEq,
    existsAndEq, and_true]

theorem rereads : Rereads ofSource? toJson where
  reread := by
    intro s t h
    obtain ⟨f, -, -, -, -, hinputs, houtputs, hparameters, hstyling, hlayout⟩ :=
      ofSource?_eq_some_iff.mp h
    rw [toJson_eq]
    refine ofSource?_eq_some_iff.mpr ⟨_, Source.fields?_record nodup_fieldNames, ?_⟩
    simp only [Fields.required?, Fields.given?, Fields.optional?_eq,
      Fields.find?_written nodup_fieldNames]
    have hplain := Styling.rereads.reread (.obj []) {} rfl
    simp [slot?, fieldNames, values, InputPort.rereads.list.given rfl hinputs,
      OutputPort.rereads.list.given rfl houtputs, Parameter.rereads.list.given rfl hparameters,
      Styling.rereads.given hplain hstyling, Layout.rereads.optional hlayout]
  null_of_null := by rintro _ _ _ ⟨⟩

end NodeType

end NodeCanvas
