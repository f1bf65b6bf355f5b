import NodeCanvas.Form.Edit

namespace NodeCanvas

inductive Offer where
  | fixed (choices : List Choice)
  | notRequested
  | loading
  | ready (choices : List Choice)
  | failed (message : String)
deriving DecidableEq

namespace Offer

def choices : Offer → List Choice
  | .fixed choices | .ready choices => choices
  | _ => []

def isLoading : Offer → Bool
  | .loading => true
  | _ => false

def toJson : Offer → Json
  | .fixed choices =>
    .obj [("state", .str "static"), ("options", .arr (choices.map Choice.toJson))]
  | .notRequested => .obj [("state", .str "not_requested")]
  | .loading => .obj [("state", .str "loading")]
  | .ready choices =>
    .obj [("state", .str "ready"), ("options", .arr (choices.map Choice.toJson))]
  | .failed message => .obj [("state", .str "failed"), ("options", .str message)]

end Offer

inductive Widget where
  | textInput (value : String)
  | textarea (value : String) (rows : Nat)
  | select (value : String) (offer : Offer)
  | multiSelect (values : List String) (offer : Offer) (maxSelections : Option Nat)
  | radio (value : String) (offer : Offer)
  | checkbox (checked : Bool)
  | toggle (on : Bool)
  | numberInput (value min max increment : Option Binary64)
  | slider (value min max increment : Binary64)
  | colorPicker (value : String)
  | fileUpload (files : List String) (accept : Option String) (multiple : Bool)
  | datePicker (value : String)
  | label (text : String)
  | divider
  | button (text : String)
  | unsupported (tag : String) (value : Option Json)
deriving DecidableEq

namespace Widget

def offer? : Widget → Option Offer
  | .select _ offer | .multiSelect _ offer _ | .radio _ offer => some offer
  | _ => none

private def orNull {α : Type} (value : Option α) (write : α → Json) : Json :=
  value.elim .null write

private def tagged (kind : String) (members : List (String × Json)) : Json :=
  .obj (("kind", .str kind) :: members)

def toJson : Widget → Json
  | .textInput value => tagged "text_input" [("value", .str value)]
  | .textarea value rows =>
    tagged "textarea" [("value", .str value), ("rows", .natural rows)]
  | .select value offer =>
    tagged "select" [("value", .str value), ("options", offer.toJson)]
  | .multiSelect values offer maxSelections =>
    tagged "multi_select" [("values", .texts values), ("options", offer.toJson),
      ("max_selections", orNull maxSelections .natural)]
  | .radio value offer => tagged "radio" [("value", .str value), ("options", offer.toJson)]
  | .checkbox checked => tagged "checkbox" [("checked", .bool checked)]
  | .toggle on => tagged "toggle" [("on", .bool on)]
  | .numberInput value min max increment =>
    tagged "number_input" [("value", orNull value .double), ("min", orNull min .double),
      ("max", orNull max .double), ("step", orNull increment .double)]
  | .slider value min max increment =>
    tagged "slider" [("value", .double value), ("min", .double min), ("max", .double max),
      ("step", .double increment)]
  | .colorPicker value => tagged "color_picker" [("value", .str value)]
  | .fileUpload files accept multiple =>
    tagged "file_upload" [("files", .texts files), ("accept", orNull accept .str),
      ("multiple", .bool multiple)]
  | .datePicker value => tagged "date_picker" [("value", .str value)]
  | .label text => tagged "label" [("text", .str text)]
  | .divider => tagged "divider" []
  | .button text => tagged "button" [("text", .str text)]
  | .unsupported tag value =>
    tagged "unsupported" [("tag", .str tag), ("value", orNull value id)]

end Widget

structure ShownField where
  name : String
  label : String
  description : Option String
  placeholder : Option String
  required : Bool
  disabled : Bool
  widget : Widget
deriving DecidableEq

/-- A group as it is shown; a collapsed one shows no fields. -/
structure ShownGroup where
  name : String
  label : String
  description : Option String
  collapsible : Bool
  collapsed : Bool
  fields : List ShownField
deriving DecidableEq

def ShownField.toJson (f : ShownField) : Json := .obj [
  ("name", .str f.name),
  ("label", .str f.label),
  ("description", f.description.elim .null .str),
  ("placeholder", f.placeholder.elim .null .str),
  ("required", .bool f.required),
  ("disabled", .bool f.disabled),
  ("widget", f.widget.toJson)]

def ShownGroup.toJson (g : ShownGroup) : Json := .obj [
  ("name", .str g.name),
  ("label", .str g.label),
  ("description", g.description.elim .null .str),
  ("collapsible", .bool g.collapsible),
  ("collapsed", .bool g.collapsed),
  ("fields", .arr (g.fields.map ShownField.toJson))]

def ShownGroup.offers (g : ShownGroup) : List (String × Offer) :=
  g.fields.filterMap fun f => f.widget.offer?.map fun offer => (f.name, offer)

/-- The texts of a list, or of a single text that is not empty. -/
def Json.textList : Option Json → List String
  | some (.arr items) => items.filterMap choiceText?
  | some (.str s) => if s.isEmpty then [] else [s]
  | _ => []

def Json.shownText (value : Option Json) : String := (value.bind choiceText?).getD ""

namespace Form

def textareaRows : Nat := 3

def offer (f : Form) (cache : ChoiceCache) (c : Component) : Offer :=
  if c.fetched?.isNone then .fixed (c.choices.getD [])
  else
    match f.choiceKey? c with
    | none => .notRequested
    | some key =>
      match cache.slot? key with
      | none => .notRequested
      | some .loading => .loading
      | some (.ready choices) => .ready choices
      | some (.failed message) => .failed message

def widget (f : Form) (cache : ChoiceCache) (c : Component) : Except Halt Widget :=
  let value := f.value? c.name
  let text := Json.shownText value
  let number := (value.bind Json.number?).map Binary64.finite
  match c.kind with
  | .textInput => .ok (.textInput text)
  | .textarea => .ok (.textarea text (c.rows.getD textareaRows))
  | .select => .ok (.select text (f.offer cache c))
  | .multiSelect => .ok (.multiSelect (Json.textList value) (f.offer cache c) c.maxSelections)
  | .radio => .ok (.radio text (f.offer cache c))
  | .checkbox => .ok (.checkbox (value == some c.checkedJson))
  | .toggle => .ok (.toggle (value == some c.onJson))
  | .numberInput => .ok (.numberInput number c.minValue c.maxValue c.increment)
  | .slider => do
    let shown ← (number.getD c.sliderMin).clamp c.sliderMin c.sliderMax
    return .slider shown c.sliderMin c.sliderMax (c.increment.getD (.ofInt 1))
  | .colorPicker => .ok (.colorPicker text)
  | .fileUpload => .ok (.fileUpload (Json.textList value) c.accept c.multiple)
  | .datePicker => .ok (.datePicker text)
  | .label => .ok (.label (c.text.getD c.label))
  | .divider => .ok .divider
  | .button => .ok (.button (c.buttonText.getD c.label))
  | .unsupported tag => .ok (.unsupported tag value)

def showField (f : Form) (cache : ChoiceCache) (c : Component) : Except Halt ShownField := do
  return {
    name := c.name
    label := c.label
    description := c.description
    placeholder := c.placeholder
    required := c.required
    disabled := c.disabled
    widget := ← f.widget cache c }

def showFields (f : Form) (cache : ChoiceCache) (g : Group) : Except Halt (List ShownField) :=
  if f.isCollapsed g.name then .ok []
  else (g.components.filter (·.visible)).mapM (f.showField cache)

def showGroup (f : Form) (cache : ChoiceCache) (g : Group) : Except Halt ShownGroup := do
  return {
    name := g.name
    label := g.label
    description := g.description
    collapsible := g.collapsible
    collapsed := f.isCollapsed g.name
    fields := ← f.showFields cache g }

def render (f : Form) (cache : ChoiceCache) : Except Halt (List ShownGroup) :=
  f.groups.mapM (f.showGroup cache)

end Form

end NodeCanvas
