import NodeCanvas.Form.Basic
import NodeCanvas.Number.Reading
import NodeCanvas.Text.Blank

namespace NodeCanvas

inductive Edit where
  | text (text : String)
  | number (value : Binary64)
  | checked (state : Bool)
  | toggle
  | selections (values : List String)
  | files (names : List String)
  /-- A value as it is, which every component takes. -/
  | raw (value : Json)

/-- A number, or the name of one that is not finite. -/
def Edit.numberOf? : Source → Option Binary64
  | .str "inf" => some (.infinite false)
  | .str "-inf" => some (.infinite true)
  | .str _ => some .nan
  | s => s.double?

/-- An edit, as a record of one field that is named for its kind. -/
def Edit.ofSource? : Source → Option Edit
  | .obj [(some kind, value)] =>
    match kind with
    | "text" => return .text (← value.text?)
    | "number" => return .number (← numberOf? value)
    | "checked" => return .checked (← value.flag?)
    | "toggle" => some .toggle
    | "selections" => return .selections (← value.list? Source.text?)
    | "files" => return .files (← value.list? Source.text?)
    | "raw" => return .raw (← value.toJson?)
    | _ => none
  | _ => none

/-- Whole numbers below nine quadrillion are stored without a point, and what is not finite as
zero. -/
def Json.ofTyped : Binary64 → Json
  | .finite d =>
    match d.toInt? with
    | some n => if n.natAbs < 9000000000000000 then .num (.whole n) else .num (.real d)
    | none => .num (.real d)
  | _ => .num (.whole 0)

/-- The finite number that is typed, else zero. -/
def typedNumber (text : String) : Double :=
  (Double.ofText? (Text.trimChars text.toList)).getD .zero

namespace Component

def sliderMin (c : Component) : Binary64 := c.minValue.getD .zero

/-- Never below the lower bound. -/
def sliderMax (c : Component) : Binary64 := (c.maxValue.getD (.ofInt 100)).max c.sliderMin

/-- A number inside the bounds of a slider; what is not finite becomes the lower one. -/
def onSlider (c : Component) (value : Binary64) : Except Halt Binary64 :=
  if value.isFinite then value.clamp c.sliderMin c.sliderMax else .ok c.sliderMin

def checkedJson (c : Component) : Json := c.checkedValue.getD (.bool true)

def uncheckedJson (c : Component) : Json := c.uncheckedValue.getD (.bool false)

def onJson (c : Component) : Json := c.onValue.getD (.bool true)

def offJson (c : Component) : Json := c.offValue.getD (.bool false)

/-- What an edit stores; nothing where the edit does not fit the component. -/
def stored (c : Component) (current : Option Json) (edit : Edit) : Except Halt (Option Json) :=
  if c.kind.isDisplayOnly then .ok none
  else
    match edit, c.kind with
    | .raw value, _ => .ok (some value)
    | .text text, .textInput | .text text, .textarea | .text text, .select
    | .text text, .radio | .text text, .colorPicker | .text text, .datePicker =>
      .ok (some (.str text))
    | .text text, .numberInput => .ok (some (.ofTyped (.finite (typedNumber text))))
    | .text text, .slider => do
      return some (.ofTyped (← c.onSlider (.finite (typedNumber text))))
    | .number value, .numberInput =>
      .ok (some (.ofTyped (value.finiteOr .zero)))
    | .number value, .slider => do
      return some (.ofTyped (← c.onSlider value))
    | .checked state, .checkbox =>
      .ok (some (if state then c.checkedJson else c.uncheckedJson))
    | .checked state, .toggle => .ok (some (if state then c.onJson else c.offJson))
    | .toggle, .toggle =>
      .ok (some (if current == some c.onJson then c.offJson else c.onJson))
    | .selections values, .multiSelect =>
      .ok (some (.arr ((c.maxSelections.elim values values.take).map .str)))
    | .files names, .fileUpload =>
      .ok (some (.arr ((if c.multiple then names else names.take 1).map .str)))
    | _, _ => .ok none

end Component

namespace Form

def setValue (f : Form) (name : String) (value : Json) : Form :=
  { f with values := f.values.insert name value, dirty := true }

def edit (f : Form) (name : String) (edit : Edit) : Except Halt (Option Form) :=
  match f.component? name with
  | some c => do
    let value ← c.stored (f.value? name) edit
    return value.map (f.setValue name)
  | none => .ok none

theorem get?_setValue_self (f : Form) (name : String) (value : Json) :
    (f.setValue name value).values.get? name = some value := by
  simp [setValue]

theorem get?_setValue_of_ne (f : Form) {name other : String} (value : Json)
    (h : other ≠ name) :
    (f.setValue name value).values.get? other = f.values.get? other := by
  simp [setValue, Dict.get?_insert_of_ne _ _ h]

end Form

end NodeCanvas
