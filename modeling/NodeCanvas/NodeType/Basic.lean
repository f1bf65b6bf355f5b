import NodeCanvas.Json.Value
import NodeCanvas.Number.Binary64

namespace NodeCanvas

structure InputPort where
  name : String
  dataType : String
  description : String := ""
  required : Bool := false
  default? : Option Json := none
deriving BEq, DecidableEq

structure OutputPort where
  name : String
  dataType : String
  description : String := ""
deriving BEq, DecidableEq

structure Parameter where
  name : String
  dataType : String
  description : String := ""
  required : Bool := false
  default? : Option Json := none
  /-- The values of an enumeration. -/
  choices : Option (List String) := none
deriving BEq, DecidableEq

/-- How a node is drawn. Keys without a meaning here are kept as they are. -/
structure Styling where
  icon : Option String := none
  backgroundColor : Option String := none
  borderColor : Option String := none
  textColor : Option String := none
  subtitle : Option String := none
  shape : Option String := none
  width : Option Binary64 := none
  height : Option Binary64 := none
  extra : Dict String Json := .empty
deriving BEq, DecidableEq

structure Choice where
  value : String
  label : String
  disabled : Bool := false
deriving BEq, DecidableEq

def Choice.plain (value : String) : Choice := { value, label := value }

structure ChoiceSource where
  family : String
  /-- The field whose value selects the list. -/
  dependsOn : Option String := none
deriving BEq, DecidableEq

/-- One element of a form: a tag, the parameter it edits, and its constraints. -/
structure Component where
  tag : String
  name : String
  label : String := ""
  description : Option String := none
  required : Bool := false
  default? : Option Json := none
  placeholder : Option String := none
  disabled : Bool := false
  visible : Bool := true
  rows : Option Nat := none
  minLength : Option Nat := none
  maxLength : Option Nat := none
  pattern : Option String := none
  minValue : Option Binary64 := none
  maxValue : Option Binary64 := none
  increment : Option Binary64 := none
  minDate : Option String := none
  maxDate : Option String := none
  maxSelections : Option Nat := none
  accept : Option String := none
  multiple : Bool := false
  choices : Option (List Choice) := none
  source : Option ChoiceSource := none
  checkedValue : Option Json := none
  uncheckedValue : Option Json := none
  onValue : Option Json := none
  offValue : Option Json := none
  text : Option String := none
  buttonText : Option String := none
  extra : Dict String Json := .empty
deriving BEq, DecidableEq

def Component.plain (tag name : String) : Component := { tag, name, label := name }

structure Group where
  name : String
  label : String := ""
  description : Option String := none
  components : List Component := []
  collapsible : Bool := false
  collapsed : Bool := false
  extra : Dict String Json := .empty
deriving BEq, DecidableEq

structure Layout where
  nodeType : String := ""
  nodeName : String := ""
  groups : List Group := []
  arrangement : Option String := none
  columns : Option Nat := none
  extra : Dict String Json := .empty
deriving BEq, DecidableEq

structure NodeType where
  /-- The key under which nodes of this type are made. -/
  key : String
  name : String
  description : String := ""
  inputs : List InputPort := []
  outputs : List OutputPort := []
  parameters : List Parameter := []
  styling : Styling := {}
  layout : Option Layout := none
deriving BEq, DecidableEq

namespace NodeType

def parameter? (t : NodeType) (name : String) : Option Parameter :=
  t.parameters.find? fun p => p.name == name

def defaults (t : NodeType) : Parameters :=
  Dict.ofList (t.parameters.filterMap fun p => p.default?.map fun value => (p.name, value))

end NodeType

end NodeCanvas
