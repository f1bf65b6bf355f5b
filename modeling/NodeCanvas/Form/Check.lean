import NodeCanvas.Form.Basic
import NodeCanvas.Number.Shortest
import NodeCanvas.Pattern.Parser

namespace NodeCanvas

structure Violation where
  field : String
  message : String
deriving DecidableEq

def Violation.toJson (v : Violation) : Json :=
  .obj [("field", .str v.field), ("message", .str v.message)]

def Binary64.message : Binary64 → String
  | .finite d => NumberLayout.message.render d
  | .infinite negative => if negative then "-inf" else "inf"
  | .nan => "NaN"

namespace Component

def textFaults (c : Component) (text : String) : List String :=
  let below := c.minLength.filter fun least => text.length < least
  let above := c.maxLength.filter fun most => text.length > most
  let strange := c.pattern.any fun pattern => Pattern.forbids pattern text
  (below.map fun least =>
    c.label ++ " must be at least " ++ toString least ++ " characters").toList
    ++ (above.map fun most =>
      c.label ++ " must be at most " ++ toString most ++ " characters").toList
    ++ if strange then [c.label ++ " has an invalid format"] else []

def numberFaults (c : Component) (d : Double) : List String :=
  let below := c.minValue.filter fun least => Binary64.finite d < least
  let above := c.maxValue.filter fun most => most < Binary64.finite d
  (below.map fun least => c.label ++ " must be at least " ++ least.message).toList
    ++ (above.map fun most => c.label ++ " must be at most " ++ most.message).toList

/-- What is wrong with a value. A blank one is wrong only where one is required. -/
def faults (c : Component) (value : Option Json) : List String :=
  if Json.isBlank value then
    if c.required then [c.label ++ " is required"] else []
  else
    match value with
    | some (.str text) => c.textFaults text
    | some (.num n) => c.numberFaults n.toDouble
    | _ => []

end Component

/-- The violations of the visible components that hold values, in their order. -/
def Form.validate (f : Form) : List Violation :=
  (f.components.filter fun c => c.visible && !c.kind.isDisplayOnly).flatMap fun c =>
    (c.faults (f.value? c.name)).map fun message => { field := c.name, message }

end NodeCanvas
