import NodeCanvas.Service.Fault
import NodeCanvas.NodeType.Written
import NodeCanvas.Json.Printer
import NodeCanvas.Text.Blank

namespace NodeCanvas.Service

structure Settings where
  baseUrl : String := "http://localhost:8000"
  timeoutSeconds : Nat := 30
  userAgent : String := "flowboard/0.1.0"
deriving DecidableEq

inductive SettingsFile where
  | absent
  | unreadable
  | text (content : String)

namespace Settings

def fieldNames : List String := ["base_url", "request_timeout_secs", "user_agent"]

def ofSource? (s : Source) : Option Settings := do
  let standard : Settings := {}
  let f ← s.fields? fieldNames
  return {
    baseUrl := ← f.given? "base_url" standard.baseUrl Source.text?
    timeoutSeconds :=
      ← f.given? "request_timeout_secs" standard.timeoutSeconds (Source.natural? 64)
    userAgent := ← f.given? "user_agent" standard.userAgent Source.text?
  }

def toJson (s : Settings) : Json := .record [
  Json.member "base_url" (.str s.baseUrl),
  Json.member "request_timeout_secs" (.natural s.timeoutSeconds),
  Json.member "user_agent" (.str s.userAgent)]

def toText (s : Settings) : String := s.toJson.pretty

/-- Settings from a file name a base address, which has to begin like one of the web. -/
def check (s : Settings) : Except Fault Settings :=
  if s.baseUrl.toList.all Text.isBlank then .error (.settings .emptyBaseUrl)
  else if s.baseUrl.startsWith "http://" || s.baseUrl.startsWith "https://" then .ok s
  else .error (.settings (.otherScheme s.baseUrl))

/-- The settings of a file; without one, the standard settings. -/
def load : SettingsFile → Except Fault Settings
  | .absent => .ok {}
  | .unreadable => .error .file
  | .text content =>
    match (Source.ofText? content).bind ofSource? with
    | some s => s.check
    | none => .error .unreadable

def dropSlashes (text : String) : String :=
  String.ofList (Text.dropEndWhile (· == '/') text.toList)

/-- The settings with another base address, if one is given that is not blank. -/
def withBaseUrl (s : Settings) (given : Option String) : Settings :=
  match given.filter fun text => !text.toList.all Text.isBlank with
  | some text => { s with baseUrl := dropSlashes (Text.trim text) }
  | none => s

def resolve (file : Option SettingsFile) (outer : Option String) : Except Fault Settings :=
  (file.elim (.ok {}) load).map fun s => s.withBaseUrl outer

def endpoint (s : Settings) (path : String) : String := dropSlashes s.baseUrl ++ path

instance : Written Settings := ⟨ofSource?, toJson⟩

end Settings

end NodeCanvas.Service
