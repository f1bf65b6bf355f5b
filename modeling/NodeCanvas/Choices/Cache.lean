import NodeCanvas.Choices.Key
import NodeCanvas.Json.Printer

namespace NodeCanvas

inductive ChoiceSlot where
  | loading
  | ready (choices : List Choice)
  | failed (message : String)
deriving DecidableEq

namespace ChoiceSlot

def fieldNames : List String := ["state", "options", "message"]

def ofSource? (s : Source) : Option ChoiceSlot := do
  let f ← s.fields? fieldNames
  match ← f.required? "state" Source.text? with
  | "loading" => return .loading
  | "ready" => return .ready (← f.required? "options" (Source.list? Choice.ofSource?))
  | "failed" => return .failed (← f.required? "message" Source.text?)
  | _ => none

def toJson : ChoiceSlot → Json
  | .loading => .obj [("state", .str "loading")]
  | .ready choices =>
    .obj [("state", .str "ready"), ("options", .arr (choices.map Choice.toJson))]
  | .failed message => .obj [("state", .str "failed"), ("message", .str message)]

instance : Written ChoiceSlot := ⟨ofSource?, toJson⟩

end ChoiceSlot

structure ChoiceCache where
  slots : Dict ChoiceKey ChoiceSlot := .empty
deriving DecidableEq

namespace ChoiceCache

def slot? (c : ChoiceCache) (key : ChoiceKey) : Option ChoiceSlot := c.slots.get? key

def choices? (c : ChoiceCache) (key : ChoiceKey) : Option (List Choice) :=
  match c.slot? key with
  | some (.ready choices) => some choices
  | _ => none

/-- Ask for a list, unless it has arrived or is on its way. -/
def begin (c : ChoiceCache) (key : ChoiceKey) : Bool × ChoiceCache :=
  match c.slot? key with
  | some .loading | some (.ready _) => (false, c)
  | some (.failed _) | none => (true, { slots := c.slots.insert key .loading })

def complete (c : ChoiceCache) (key : ChoiceKey) (answer : Except String (List Choice)) :
    ChoiceCache :=
  { slots := c.slots.insert key (match answer with
      | .ok choices => .ready choices
      | .error message => .failed message) }

def forget (c : ChoiceCache) (key : ChoiceKey) : ChoiceCache := { slots := c.slots.erase key }

def clear (_ : ChoiceCache) : ChoiceCache := {}

def size (c : ChoiceCache) : Nat := c.slots.size

theorem slot?_complete_self (c : ChoiceCache) (key : ChoiceKey) (choices : List Choice) :
    (c.complete key (.ok choices)).slot? key = some (.ready choices) := by
  simp [complete, slot?]

theorem slot?_complete_of_ne (c : ChoiceCache) {key query : ChoiceKey}
    (answer : Except String (List Choice)) (h : query ≠ key) :
    (c.complete key answer).slot? query = c.slot? query := by
  simp [complete, slot?, Dict.get?_insert_of_ne _ _ h]

theorem slot?_begin_of_ne (c : ChoiceCache) {key query : ChoiceKey} (h : query ≠ key) :
    (c.begin key).2.slot? query = c.slot? query := by
  unfold begin
  split <;> simp [slot?, Dict.get?_insert_of_ne _ _ h]

end ChoiceCache

/-- The text by which a value is compared with choices; `null` has none. -/
def Json.choiceText? : Json → Option String
  | .null => none
  | j => some j.displayText

/-- Whether a value that is not empty is missing from a list that has arrived. -/
def leftChoices (current : Option Json) (slot : Option ChoiceSlot) : Bool :=
  match slot, (current.bind Json.choiceText?).filter fun text => !text.isEmpty with
  | some (.ready choices), some text => !choices.any fun choice => choice.value == text
  | _, _ => false

end NodeCanvas
