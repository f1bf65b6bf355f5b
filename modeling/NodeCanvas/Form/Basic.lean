import NodeCanvas.Form.Kind
import NodeCanvas.Choices.Cache

namespace NodeCanvas

def Component.kind (c : Component) : Kind := .ofTag c.tag

/-- Where the choices of a component are fetched. Lists without choices of their own that edit
the model or the collection are fetched without being told to. -/
def Component.fetched? (c : Component) : Option ChoiceSource :=
  match c.source with
  | some source => some source
  | none =>
    if !c.kind.isSelectLike || c.choices.any (fun choices => !choices.isEmpty) then none
    else if c.name = "model" then some { family := "models", dependsOn := some "service" }
    else if c.name = "collection_name" then some { family := "collections" }
    else none

namespace NodeType

/-- The tag of the component that edits a parameter in a plain form. -/
def plainTag (p : Parameter) : String :=
  if p.choices.isSome then "select"
  else if p.dataType = "bool" ∨ p.dataType = "boolean" then "checkbox"
  else if ["int", "integer", "float", "number"].contains p.dataType then "number_input"
  else "text_input"

def plainComponent (p : Parameter) : Component :=
  { Component.plain (plainTag p) p.name with
    required := p.required
    default? := p.default?
    description := if p.description.isEmpty then none else some p.description
    choices := p.choices.map fun choices => choices.map Choice.plain }

def plainGroups (t : NodeType) : List Group :=
  if t.parameters.isEmpty then []
  else [{
    name := "parameters"
    label := "Parameters"
    components := t.parameters.map plainComponent }]

def groups (t : NodeType) : List Group :=
  match t.layout with
  | some layout => if layout.groups.isEmpty then t.plainGroups else layout.groups
  | none => t.plainGroups

end NodeType

structure Form where
  nodeId : String
  type : NodeType
  groups : List Group
  values : Parameters
  collapsed : Dict String Bool
  /-- A value was edited or reset since the form was opened. -/
  dirty : Bool
deriving DecidableEq

namespace Form

def ofNode (nodeId : String) (type : NodeType) (values : Parameters) : Form where
  nodeId := nodeId
  type := type
  groups := type.groups
  values := values
  collapsed := .ofList (type.groups.map fun g => (g.name, g.collapsed))
  dirty := false

def components (f : Form) : List Component := f.groups.flatMap (·.components)

/-- The component that holds the value of a field: the first one of its name that holds any. -/
def component? (f : Form) (name : String) : Option Component :=
  f.components.find? fun c => c.name == name && !c.kind.isDisplayOnly

/-- The value of a field: the edited one, else the default of its component. -/
def value? (f : Form) (name : String) : Option Json :=
  (f.values.get? name).or ((f.component? name).bind (·.default?))

def isCollapsed (f : Form) (group : String) : Bool := (f.collapsed.get? group).getD false

def toggleGroup? (f : Form) (group : String) : Option (Bool × Form) :=
  if f.groups.any fun g => g.name == group && g.collapsible then
    let state := !f.isCollapsed group
    some (state, { f with collapsed := f.collapsed.insert group state })
  else none

/-- The list of choices that a component needs now: none while the field that selects it is
empty. -/
def choiceKey? (f : Form) (c : Component) : Option ChoiceKey :=
  match c.fetched? with
  | none => none
  | some source =>
    match source.dependsOn with
    | none => some (.independent source.family)
    | some field =>
      (((f.value? field).bind Json.choiceText?).filter fun text => !text.isEmpty).map
        (ChoiceKey.dependent source.family)

theorem value?_of_get? (f : Form) {name : String} {value : Json}
    (h : f.values.get? name = some value) : f.value? name = some value := by
  simp [value?, h]

end Form

end NodeCanvas
