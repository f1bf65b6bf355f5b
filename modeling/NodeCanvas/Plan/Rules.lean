import NodeCanvas.Json.Record
import NodeCanvas.Text.Case

namespace NodeCanvas

structure FallbackKey where
  registryKey : String
  parameter : String
deriving DecidableEq

namespace FallbackKey

instance : Ord FallbackKey := ⟨compareLex (compareOn registryKey) (compareOn parameter)⟩

instance : Std.TransOrd FallbackKey :=
  inferInstanceAs (Std.TransCmp (compareLex (compareOn registryKey) (compareOn parameter)))

theorem eq_of_compare {a b : FallbackKey} (h : compare a b = .eq) : a = b := by
  have h : (compareOn registryKey a b).then (compareOn parameter a b) = .eq := h
  rw [Ordering.then_eq_eq] at h
  obtain ⟨hk, hp⟩ := h
  cases a
  cases b
  cases Std.LawfulEqCmp.eq_of_compare (show compare _ _ = .eq from hk)
  cases Std.LawfulEqCmp.eq_of_compare (show compare _ _ = .eq from hp)
  rfl

instance : Std.LawfulEqOrd FallbackKey where
  eq_of_compare := eq_of_compare

instance : OrderedKey FallbackKey where

end FallbackKey

structure Rules where
  aliases : Dict String String
  fallbacks : Dict FallbackKey Json
  /-- The registry keys of which one must be present, if any are listed. -/
  entryCategories : List String
  terminalCategories : List String
  outputPrefix : String
  inputPrefix : String
  /-- The port of an edge whose source handle names none. -/
  fallbackOutput : String
  /-- The port of an edge whose target handle names none. -/
  fallbackInput : String

namespace Rules

def standard : Rules where
  aliases := .ofList [
    ("QueryNode", "querynode"),
    ("ResponseNode", "responsenode"),
    ("LanguageModelNode", "languagemodelnode")]
  fallbacks := .ofList [
    (⟨"querynode", "query"⟩, .str "Hi there!"),
    (⟨"languagemodelnode", "service"⟩, .str "openai")]
  entryCategories := ["querynode"]
  terminalCategories := ["responsenode"]
  outputPrefix := "output-"
  inputPrefix := "input-"
  fallbackOutput := "result"
  fallbackInput := "query"

instance : Inhabited Rules := ⟨standard⟩

def fieldNames : List String :=
  ["aliases", "fallbacks", "entry_categories", "terminal_categories", "output_handle_prefix",
    "input_handle_prefix", "fallback_output", "fallback_input"]

def fallbackOf? : Source → Option (FallbackKey × Json)
  | .arr [registryKey, parameter, value] =>
    return (⟨← registryKey.text?, ← parameter.text?⟩, ← value.toJson?)
  | _ => none

/-- Rules of which those that are left out are the standard ones. -/
def ofSource? (s : Source) : Option Rules := do
  let f ← s.fields? fieldNames
  return {
    aliases := ← f.given? "aliases" standard.aliases (Source.dict? Source.text?)
    fallbacks := ← f.given? "fallbacks" standard.fallbacks fun s =>
      (s.list? fallbackOf?).map Dict.ofList
    entryCategories :=
      ← f.given? "entry_categories" standard.entryCategories (Source.list? Source.text?)
    terminalCategories :=
      ← f.given? "terminal_categories" standard.terminalCategories (Source.list? Source.text?)
    outputPrefix := ← f.given? "output_handle_prefix" standard.outputPrefix Source.text?
    inputPrefix := ← f.given? "input_handle_prefix" standard.inputPrefix Source.text?
    fallbackOutput := ← f.given? "fallback_output" standard.fallbackOutput Source.text?
    fallbackInput := ← f.given? "fallback_input" standard.fallbackInput Source.text?
  }

/-- The registry key of a node type: its alias, else its name in lower case. -/
def registryKey (r : Rules) (name : String) : String :=
  (r.aliases.get? name).getD (Text.lower name)

def fallback? (r : Rules) (registryKey parameter : String) : Option Json :=
  r.fallbacks.get? ⟨registryKey, parameter⟩

/-- The port that a handle names once its prefix is taken off. -/
def portName (handle : Option String) (start fallback : String) : String :=
  match handle with
  | none => fallback
  | some handle =>
    let port :=
      if start.toList.isPrefixOf handle.toList then
        String.ofList (handle.toList.drop start.length)
      else handle
    if port.isEmpty then fallback else port

def outputPort (r : Rules) (handle : Option String) : String :=
  portName handle r.outputPrefix r.fallbackOutput

def inputPort (r : Rules) (handle : Option String) : String :=
  portName handle r.inputPrefix r.fallbackInput

end Rules

end NodeCanvas
