import NodeCanvas.Json.Value

namespace NodeCanvas

inductive Kind where
  | textInput
  | textarea
  | select
  | multiSelect
  | checkbox
  | radio
  | numberInput
  | slider
  | colorPicker
  | fileUpload
  | datePicker
  | label
  | divider
  | button
  | toggle
  | unsupported (tag : String)
deriving DecidableEq

namespace Kind

def tags : List (String × Kind) := [
  ("text_input", .textInput),
  ("textarea", .textarea),
  ("select", .select),
  ("multi_select", .multiSelect),
  ("checkbox", .checkbox),
  ("radio", .radio),
  ("number_input", .numberInput),
  ("slider", .slider),
  ("color_picker", .colorPicker),
  ("file_upload", .fileUpload),
  ("date_picker", .datePicker),
  ("label", .label),
  ("divider", .divider),
  ("button", .button),
  ("toggle", .toggle)]

def ofTag (tag : String) : Kind := (tags.lookup tag).getD (.unsupported tag)

/-- Components that never hold a value. -/
def isDisplayOnly : Kind → Bool
  | .label | .divider | .button => true
  | _ => false

def isSelectLike : Kind → Bool
  | .select | .multiSelect | .radio => true
  | _ => false

def tag? (k : Kind) : Option String := (tags.find? fun entry => entry.2 == k).map (·.1)

def toJson (k : Kind) : Json :=
  match k with
  | .unsupported tag => .obj [("unsupported", .str tag)]
  | _ => .str (k.tag?.getD "")

end Kind

end NodeCanvas
