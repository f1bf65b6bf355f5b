import NodeCanvas.NodeType.Basic
import NodeCanvas.Json.Record

namespace NodeCanvas

namespace Json

def texts (items : List String) : Json := .arr (items.map .str)

def natural (n : Nat) : Json := .num (.whole n)

/-- What is no finite number is written as `null`. -/
def double : Binary64 → Json
  | .finite d => .num (.real d)
  | _ => .null

def member (key : String) (value : Json) : Option (String × Json) := some (key, value)

def memberIf? {α : Type} (key : String) (value : Option α) (write : α → Json) :
    Option (String × Json) :=
  value.map fun value => (key, write value)

/-- Kept members, for the end of a record. -/
def kept (extra : Dict String Json) : List (Option (String × Json)) := extra.entries.map some

end Json

open Json (member memberIf? kept)

namespace InputPort

def fieldNames : List String := ["name", "type", "description", "required", "default_value"]

def ofSource? (s : Source) : Option InputPort := do
  let f ← s.fields? fieldNames
  return {
    name := ← f.required? "name" Source.text?
    dataType := ← f.required? "type" Source.text?
    description := ← f.given? "description" "" Source.text?
    required := ← f.given? "required" false Source.flag?
    default? := ← f.optional? "default_value" Source.toJson?
  }

def toJson (p : InputPort) : Json := .record [
  member "name" (.str p.name),
  member "type" (.str p.dataType),
  member "description" (.str p.description),
  member "required" (.bool p.required),
  memberIf? "default_value" p.default? id]

instance : Written InputPort := ⟨ofSource?, toJson⟩

end InputPort

namespace OutputPort

def fieldNames : List String := ["name", "type", "description"]

def ofSource? (s : Source) : Option OutputPort := do
  let f ← s.fields? fieldNames
  return {
    name := ← f.required? "name" Source.text?
    dataType := ← f.required? "type" Source.text?
    description := ← f.given? "description" "" Source.text?
  }

def toJson (p : OutputPort) : Json := .record [
  member "name" (.str p.name),
  member "type" (.str p.dataType),
  member "description" (.str p.description)]

instance : Written OutputPort := ⟨ofSource?, toJson⟩

end OutputPort

namespace Parameter

def fieldNames : List String :=
  ["name", "type", "description", "required", "default_value", "options"]

def ofSource? (s : Source) : Option Parameter := do
  let f ← s.fields? fieldNames
  return {
    name := ← f.required? "name" Source.text?
    dataType := ← f.required? "type" Source.text?
    description := ← f.given? "description" "" Source.text?
    required := ← f.given? "required" false Source.flag?
    default? := ← f.optional? "default_value" Source.toJson?
    choices := ← f.optional? "options" (Source.list? Source.text?)
  }

def toJson (p : Parameter) : Json := .record [
  member "name" (.str p.name),
  member "type" (.str p.dataType),
  member "description" (.str p.description),
  member "required" (.bool p.required),
  memberIf? "default_value" p.default? id,
  memberIf? "options" p.choices .texts]

instance : Written Parameter := ⟨ofSource?, toJson⟩

end Parameter

namespace Styling

def fieldNames : List String :=
  ["icon", "background_color", "border_color", "text_color", "subtitle", "shape", "width",
    "height"]

def ofSource? (s : Source) : Option Styling := do
  let f ← s.openFields? fieldNames
  return {
    icon := ← f.optional? "icon" Source.text?
    backgroundColor := ← f.optional? "background_color" Source.text?
    borderColor := ← f.optional? "border_color" Source.text?
    textColor := ← f.optional? "text_color" Source.text?
    subtitle := ← f.optional? "subtitle" Source.text?
    shape := ← f.optional? "shape" Source.text?
    width := ← f.optional? "width" Source.double?
    height := ← f.optional? "height" Source.double?
    extra := ← f.others?
  }

def toJson (s : Styling) : Json := .record ([
  memberIf? "icon" s.icon .str,
  memberIf? "background_color" s.backgroundColor .str,
  memberIf? "border_color" s.borderColor .str,
  memberIf? "text_color" s.textColor .str,
  memberIf? "subtitle" s.subtitle .str,
  memberIf? "shape" s.shape .str,
  memberIf? "width" s.width .double,
  memberIf? "height" s.height .double] ++ kept s.extra)

instance : Written Styling := ⟨ofSource?, toJson⟩

end Styling

namespace Choice

def fieldNames : List String := ["value", "label", "disabled"]

def ofSource? (s : Source) : Option Choice := do
  let f ← s.fields? fieldNames
  return {
    value := ← f.required? "value" Source.text?
    label := ← f.required? "label" Source.text?
    disabled := ← f.given? "disabled" false Source.flag?
  }

/-- Only a disabled choice says so. -/
def toJson (c : Choice) : Json := .record [
  member "value" (.str c.value),
  member "label" (.str c.label),
  memberIf? "disabled" (if c.disabled then some true else none) .bool]

instance : Written Choice := ⟨ofSource?, toJson⟩

end Choice

namespace ChoiceSource

def fieldNames : List String := ["family", "depends_on"]

def ofSource? (s : Source) : Option ChoiceSource := do
  let f ← s.fields? fieldNames
  return {
    family := ← f.required? "family" Source.text?
    dependsOn := ← f.optional? "depends_on" Source.text?
  }

def toJson (c : ChoiceSource) : Json := .record [
  member "family" (.str c.family),
  memberIf? "depends_on" c.dependsOn .str]

instance : Written ChoiceSource := ⟨ofSource?, toJson⟩

end ChoiceSource

namespace Component

def fieldNames : List String :=
  ["type", "name", "label", "description", "required", "default_value", "placeholder",
    "disabled", "visible", "rows", "min_length", "max_length", "pattern", "min_value",
    "max_value", "step", "min_date", "max_date", "max_selections", "accept", "multiple",
    "options", "options_source", "checked_value", "unchecked_value", "on_value", "off_value",
    "text", "button_text"]

def ofSource? (s : Source) : Option Component := do
  let f ← s.openFields? fieldNames
  return {
    tag := ← f.required? "type" Source.text?
    name := ← f.required? "name" Source.text?
    label := ← f.given? "label" "" Source.text?
    description := ← f.optional? "description" Source.text?
    required := ← f.given? "required" false Source.flag?
    default? := ← f.optional? "default_value" Source.toJson?
    placeholder := ← f.optional? "placeholder" Source.text?
    disabled := ← f.given? "disabled" false Source.flag?
    visible := ← f.given? "visible" true Source.flag?
    rows := ← f.optional? "rows" (Source.natural? 32)
    minLength := ← f.optional? "min_length" (Source.natural? 64)
    maxLength := ← f.optional? "max_length" (Source.natural? 64)
    pattern := ← f.optional? "pattern" Source.text?
    minValue := ← f.optional? "min_value" Source.double?
    maxValue := ← f.optional? "max_value" Source.double?
    increment := ← f.optional? "step" Source.double?
    minDate := ← f.optional? "min_date" Source.text?
    maxDate := ← f.optional? "max_date" Source.text?
    maxSelections := ← f.optional? "max_selections" (Source.natural? 64)
    accept := ← f.optional? "accept" Source.text?
    multiple := ← f.given? "multiple" false Source.flag?
    choices := ← f.optional? "options" (Source.list? Choice.ofSource?)
    source := ← f.optional? "options_source" ChoiceSource.ofSource?
    checkedValue := ← f.optional? "checked_value" Source.toJson?
    uncheckedValue := ← f.optional? "unchecked_value" Source.toJson?
    onValue := ← f.optional? "on_value" Source.toJson?
    offValue := ← f.optional? "off_value" Source.toJson?
    text := ← f.optional? "text" Source.text?
    buttonText := ← f.optional? "button_text" Source.text?
    extra := ← f.others?
  }

def toJson (c : Component) : Json := .record ([
  member "type" (.str c.tag),
  member "name" (.str c.name),
  member "label" (.str c.label),
  memberIf? "description" c.description .str,
  member "required" (.bool c.required),
  memberIf? "default_value" c.default? id,
  memberIf? "placeholder" c.placeholder .str,
  member "disabled" (.bool c.disabled),
  member "visible" (.bool c.visible),
  memberIf? "rows" c.rows .natural,
  memberIf? "min_length" c.minLength .natural,
  memberIf? "max_length" c.maxLength .natural,
  memberIf? "pattern" c.pattern .str,
  memberIf? "min_value" c.minValue .double,
  memberIf? "max_value" c.maxValue .double,
  memberIf? "step" c.increment .double,
  memberIf? "min_date" c.minDate .str,
  memberIf? "max_date" c.maxDate .str,
  memberIf? "max_selections" c.maxSelections .natural,
  memberIf? "accept" c.accept .str,
  member "multiple" (.bool c.multiple),
  memberIf? "options" c.choices fun choices => .arr (choices.map Choice.toJson),
  memberIf? "options_source" c.source ChoiceSource.toJson,
  memberIf? "checked_value" c.checkedValue id,
  memberIf? "unchecked_value" c.uncheckedValue id,
  memberIf? "on_value" c.onValue id,
  memberIf? "off_value" c.offValue id,
  memberIf? "text" c.text .str,
  memberIf? "button_text" c.buttonText .str] ++ kept c.extra)

instance : Written Component := ⟨ofSource?, toJson⟩

end Component

namespace Group

def fieldNames : List String :=
  ["name", "label", "description", "components", "collapsible", "collapsed"]

def ofSource? (s : Source) : Option Group := do
  let f ← s.openFields? fieldNames
  return {
    name := ← f.required? "name" Source.text?
    label := ← f.given? "label" "" Source.text?
    description := ← f.optional? "description" Source.text?
    components := ← f.given? "components" [] (Source.list? Component.ofSource?)
    collapsible := ← f.given? "collapsible" false Source.flag?
    collapsed := ← f.given? "collapsed" false Source.flag?
    extra := ← f.others?
  }

def toJson (g : Group) : Json := .record ([
  member "name" (.str g.name),
  member "label" (.str g.label),
  memberIf? "description" g.description .str,
  member "components" (.arr (g.components.map Component.toJson)),
  member "collapsible" (.bool g.collapsible),
  member "collapsed" (.bool g.collapsed)] ++ kept g.extra)

instance : Written Group := ⟨ofSource?, toJson⟩

end Group

namespace Layout

def fieldNames : List String := ["node_id", "node_name", "groups", "layout", "columns"]

def ofSource? (s : Source) : Option Layout := do
  let f ← s.openFields? fieldNames
  return {
    nodeType := ← f.given? "node_id" "" Source.text?
    nodeName := ← f.given? "node_name" "" Source.text?
    groups := ← f.given? "groups" [] (Source.list? Group.ofSource?)
    arrangement := ← f.optional? "layout" Source.text?
    columns := ← f.optional? "columns" (Source.natural? 32)
    extra := ← f.others?
  }

def toJson (l : Layout) : Json := .record ([
  member "node_id" (.str l.nodeType),
  member "node_name" (.str l.nodeName),
  member "groups" (.arr (l.groups.map Group.toJson)),
  memberIf? "layout" l.arrangement .str,
  memberIf? "columns" l.columns .natural] ++ kept l.extra)

instance : Written Layout := ⟨ofSource?, toJson⟩

end Layout

namespace NodeType

def fieldNames : List String :=
  ["node_id", "name", "description", "inputs", "outputs", "parameters", "styling", "ui_config"]

def ofSource? (s : Source) : Option NodeType := do
  let f ← s.fields? fieldNames
  return {
    key := ← f.required? "node_id" Source.text?
    name := ← f.required? "name" Source.text?
    description := ← f.given? "description" "" Source.text?
    inputs := ← f.given? "inputs" [] (Source.list? InputPort.ofSource?)
    outputs := ← f.given? "outputs" [] (Source.list? OutputPort.ofSource?)
    parameters := ← f.given? "parameters" [] (Source.list? Parameter.ofSource?)
    styling := ← f.given? "styling" {} Styling.ofSource?
    layout := ← f.optional? "ui_config" Layout.ofSource?
  }

def toJson (t : NodeType) : Json := .record [
  member "node_id" (.str t.key),
  member "name" (.str t.name),
  member "description" (.str t.description),
  member "inputs" (.arr (t.inputs.map InputPort.toJson)),
  member "outputs" (.arr (t.outputs.map OutputPort.toJson)),
  member "parameters" (.arr (t.parameters.map Parameter.toJson)),
  member "styling" t.styling.toJson,
  memberIf? "ui_config" t.layout Layout.toJson]

instance : Written NodeType := ⟨ofSource?, toJson⟩

end NodeType

end NodeCanvas
