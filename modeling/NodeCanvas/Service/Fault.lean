import NodeCanvas.Url.Parser

namespace NodeCanvas.Service

inductive SettingsFault where
  | emptyBaseUrl
  | otherScheme (baseUrl : String)
  | noAddress (reason : UrlFault)
  /-- The base address has no path that a segment can be added to. -/
  | noPath
  | noSelector
deriving DecidableEq

def SettingsFault.message : SettingsFault → String
  | .emptyBaseUrl => "base_url is empty"
  | .otherScheme baseUrl => "base_url must be an http(s) URL, got '" ++ baseUrl ++ "'"
  | .noAddress reason => "invalid base_url: " ++ reason.message
  | .noPath => "base_url cannot carry a path"
  | .noSelector => "models require a service value"

inductive CarryFault where
  /-- The name of the client holds control characters. -/
  | userAgent
  | address (reason : UrlFault)
  | otherScheme (scheme : String)
  | unreachable
deriving DecidableEq

def CarryFault.message : CarryFault → String
  | .userAgent => "the user agent holds control characters"
  | .address reason => reason.message
  | .otherScheme scheme => "cannot carry requests of the scheme " ++ scheme
  | .unreachable => "no reply"

inductive Fault where
  | carry (reason : CarryFault)
  | status (code : Nat) (body : String)
  | unsuccessful (reason : String)
  | unknownFamily (family : String)
  | settings (reason : SettingsFault)
  /-- A file that cannot be read or written. -/
  | file
  /-- A reply or a file that does not hold what it should. -/
  | unreadable
deriving DecidableEq

def Fault.message : Fault → String
  | .carry reason => "HTTP error: " ++ reason.message
  | .status code body => "API error " ++ toString code ++ ": " ++ body
  | .unsuccessful reason => "Backend reported failure: " ++ reason
  | .unknownFamily family => "No option source for family '" ++ family ++ "'"
  | .settings reason => "Configuration error: " ++ reason.message
  | .file => "IO error: the file cannot be read or written"
  | .unreadable => "Parse error: the text does not have the expected form"

end NodeCanvas.Service
