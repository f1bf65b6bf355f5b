namespace NodeCanvas

/-- The part that a category of nodes plays in a graph that can be run. -/
inductive Role where
  | entry
  | terminal
deriving DecidableEq

def Role.text : Role → String
  | .entry => "entry"
  | .terminal => "terminal"

inductive Rejection where
  | emptyGraph
  /-- A required parameter has no value, no fallback and no default. -/
  | missingParameter (nodeId nodeName parameter : String)
  /-- No node has a role that some node must have. -/
  | missingCategory (role : Role) (expected : List String)
deriving DecidableEq

def Rejection.message : Rejection → String
  | .emptyGraph => "Please add nodes to the workflow before executing"
  | .missingParameter nodeId nodeName parameter =>
    "Node \"" ++ nodeName ++ "\" (" ++ nodeId ++ ") is missing required parameter: " ++ parameter
  | .missingCategory role expected =>
    "Workflow must include at least one " ++ role.text ++ " node ("
      ++ " or ".intercalate expected ++ ")"

inductive Failure where
  | unknownType (key : String)
  | missingEndpoint (nodeId : String)
  | rejected (reason : Rejection)
  | catalogFetch (message : String)
  | run (message : String)
  | service (message : String)
  | unreadable
deriving DecidableEq

def Failure.message : Failure → String
  | .unknownType key => "Unknown node schema: " ++ key
  | .missingEndpoint nodeId => "Cannot connect to missing node '" ++ nodeId ++ "'"
  | .rejected reason => reason.message
  | .catalogFetch message => "Schema fetch failed: " ++ message
  | .run message => "Execution failed: " ++ message
  | .service message => "Backend error: " ++ message
  | .unreadable => "Serialization error: the document does not have the expected form"

end NodeCanvas
