import NodeCanvas.Service.Settings
import NodeCanvas.Workflow.Dialogue

namespace NodeCanvas.Service

inductive Method where
  | get
  | post
deriving DecidableEq

def Method.text : Method → String
  | .get => "GET"
  | .post => "POST"

structure Request where
  method : Method
  url : Url
  userAgent : String
  body : Option Json := none
deriving DecidableEq

def Request.toJson (r : Request) : Json := .record [
  Json.member "method" (.str r.method.text),
  Json.member "url" (.str r.url.text),
  Json.member "user_agent" (.str r.userAgent),
  Json.memberIf? "body" r.body id]

structure Reply where
  status : Nat
  body : String
deriving DecidableEq

namespace Reply

def fieldNames : List String := ["status", "body"]

def ofSource? (s : Source) : Option Reply := do
  let f ← s.fields? fieldNames
  return {
    status := ← f.required? "status" (Source.natural? 16)
    body := ← f.given? "body" "" Source.text?
  }

end Reply

def listingPath : String := "/api/v1/nodes/"

def modelsPath : String := "/api/v1/nodes/models"

def runPath : String := "/api/v1/nodes/execute"

def collectionsPath : String := "/api/v1/vector-store/collections"

def workflowsPath : String := "/api/v1/workflows/"

/-- The family of lists that are selected by the name of a model's provider. -/
def modelsFamily : String := "models"

def collectionsFamily : String := "collections"

def checkScheme (r : Request) : Except Fault Request :=
  if ["http", "https"].contains r.url.scheme then .ok r
  else .error (.carry (.otherScheme r.url.scheme))

/-- Ask for what is at a path of the service, below it at a segment if one is given. -/
def getFrom (s : Settings) (path : String) (segment : Option String) :
    Except Fault Request := do
  let url ← (Url.ofText (s.endpoint path)).mapError fun e => .settings (.noAddress e)
  let url ←
    match segment with
    | none => pure url
    | some segment => ((url.push? segment.toList).elim (.error (.settings .noPath)) .ok)
  checkScheme { method := .get, url, userAgent := s.userAgent }

def postTo (s : Settings) (path : String) (body : Json) : Except Fault Request := do
  let url ← (Url.ofText (s.endpoint path)).mapError fun e => .carry (.address e)
  checkScheme { method := .post, url, userAgent := s.userAgent, body := some body }

def request (s : Settings) : Call → Except Fault Request
  | .listing => getFrom s listingPath none
  | .choices key =>
    if key.family = modelsFamily then
      match key.selector with
      | some provider => getFrom s modelsPath (some provider)
      | none => .error (.settings .noSelector)
    else if key.family = collectionsFamily then getFrom s collectionsPath none
    else .error (.unknownFamily key.family)
  | .run plan => postTo s runPath plan.toJson
  | .save request => postTo s workflowsPath request.toJson
  | .load id => getFrom s workflowsPath (some id)
  | .workflows => getFrom s workflowsPath none

structure Envelope (α : Type) where
  success : Bool
  data : Option α
  error : Option String
  message : Option String

namespace Envelope

variable {α : Type}

def fieldNames : List String := ["success", "data", "error", "message"]

def ofSource? (read : Source → Option α) (s : Source) : Option (Envelope α) := do
  let f ← s.fields? fieldNames
  return {
    success := ← f.given? "success" false Source.flag?
    data := ← f.nullable? "data" read
    error := ← f.optional? "error" Source.text?
    message := ← f.optional? "message" Source.text?
  }

/-- The wrapped data; a failure says what was asked for where it gives no reason of its own. -/
def open? (what : String) (e : Envelope α) : Except Fault α :=
  if e.success then
    match e.data with
    | some data => .ok data
    | none => .error (.unsuccessful (what ++ " returned no data"))
  else
    .error (.unsuccessful
      ((e.error.or e.message).getD (what ++ " returned success=false")))

end Envelope

/-- The models of a provider, each under its own name. -/
def modelsOfSource? (s : Source) : Option (List Choice) := do
  let f ← s.fields? ["models"]
  let names ← f.given? "models" [] (Source.list? Source.text?)
  return names.map Choice.plain

def collectionOfSource? (s : Source) : Option Choice := do
  let f ← s.fields? ["name", "points_count"]
  let name ← f.required? "name" Source.text?
  let count ← f.given? "points_count" 0 (Source.natural? 64)
  return { value := name, label := name ++ " (" ++ toString count ++ " docs)" }

def collectionsOfSource? (s : Source) : Option (Bool × List Choice) := do
  let f ← s.fields? ["success", "collections"]
  return (← f.given? "success" false Source.flag?,
    ← f.given? "collections" [] (Source.list? collectionOfSource?))

def readBody {α : Type} (read : Source → Option α) (r : Reply) : Except Fault α :=
  if 200 ≤ r.status ∧ r.status < 300 then
    ((Source.ofText? r.body).bind read).elim (.error .unreadable) .ok
  else .error (.status r.status r.body)

def result (call : Call) (r : Reply) : Except Fault call.Result :=
  match call with
  | .listing => do
    let reply ← readBody ListingReply.ofSource? r
    if reply.success then return reply.listing
    else throw (.unsuccessful "catalog returned success=false")
  | .choices key => do
    if key.family = modelsFamily then
      (← readBody (Envelope.ofSource? modelsOfSource?) r).open? "models"
    else
      let (success, collections) ← readBody collectionsOfSource? r
      if success then return collections
      else throw (.unsuccessful "collections returned success=false")
  | .run _ => readBody RunReport.ofSource? r
  | .save _ => readBody Source.toJson? r
  | .load _ => do
    (← readBody (Envelope.ofSource? StoredWorkflow.ofSource?) r).open? "workflow load"
  | .workflows => do
    (← readBody (Envelope.ofSource? (Source.list? WorkflowSummary.ofSource?)) r).open?
      "workflow list"

def isSendable (c : Char) : Bool := (0x20 ≤ c.toNat && c.toNat != 0x7F) || c == '\t'

structure Client where
  settings : Settings
  sendable : settings.userAgent.toList.all isSendable = true

namespace Client

def ofSettings (s : Settings) : Except Fault Client :=
  if h : s.userAgent.toList.all isSendable = true then .ok ⟨s, h⟩
  else .error (.carry .userAgent)

/-- Make a call by way of a carrier, who brings the reply to a request if there is one. -/
def ask {m : Type → Type} [Monad m] (c : Client) (carry : Request → m (Option Reply))
    (call : Call) : m (Except Fault call.Result) := do
  match request c.settings call with
  | .error e => return .error e
  | .ok request =>
    match ← carry request with
    | none => return .error (.carry .unreachable)
    | some reply => return result call reply

end Client

def Fault.toFailure (call : Call) (e : Fault) : Failure :=
  match call with
  | .listing | .choices _ => .catalogFetch e.message
  | _ => .service e.message

def Client.answer {m : Type → Type} [Monad m] (c : Client)
    (carry : Request → m (Option Reply)) (call : Call) : m call.Answer := do
  return (← c.ask carry call).mapError (Fault.toFailure call)

end NodeCanvas.Service
