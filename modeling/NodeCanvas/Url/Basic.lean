import NodeCanvas.Url.Host

namespace NodeCanvas

inductive UrlPath where
  | segments (names : List String)
  /-- A path that is no list of segments. -/
  | whole (text : String)
deriving DecidableEq

namespace UrlPath

def text : UrlPath → String
  | .segments names => String.join (names.map fun name => "/" ++ name)
  | .whole text => text

end UrlPath

structure Url where
  scheme : String
  /-- What stands before the host, without the sign between them. -/
  login : Option String := none
  host : Option Host := none
  /-- The port, where it is not the usual one of the scheme. -/
  port : Option Nat := none
  path : UrlPath
  query : Option String := none
  fragment : Option String := none
deriving DecidableEq

namespace Url

def target (u : Url) : String :=
  u.path.text ++ u.query.elim "" fun query => "?" ++ query

def authority (u : Url) : String :=
  match u.host with
  | none => if u.scheme == "file" then "//" else ""
  | some host =>
    "//" ++ (u.login.elim "" fun login => login ++ "@") ++ host.text
      ++ (u.port.elim "" fun port => ":" ++ toString port)

def text (u : Url) : String :=
  u.scheme ++ ":" ++ u.authority ++ u.target
    ++ (u.fragment.elim "" fun fragment => "#" ++ fragment)

/-- The schemes that name a host on a network, with their usual ports. -/
def networkPorts : List (String × Nat) :=
  [("http", 80), ("https", 443), ("ws", 80), ("wss", 443), ("ftp", 21)]

def isNetworkScheme (scheme : String) : Bool := (networkPorts.lookup scheme).isSome

def takesBackslash (scheme : String) : Bool := isNetworkScheme scheme || scheme == "file"

def isHere (segment : List Char) : Bool :=
  let segment := segment.map Char.toLower
  segment == ".".toList || segment == "%2e".toList

def isAbove (segment : List Char) : Bool :=
  let segment := segment.map Char.toLower
  [".." , ".%2e", "%2e.", "%2e%2e"].any fun above => segment == above.toList

/-- Segments followed by one more, of which the last one may be empty. What is written of a segment
decides whether it stands for a place. -/
def addSegment (written : Char → Bool) (names : List String) (segment : List Char)
    (last : Bool) : List String :=
  let shown := Percent.encode written segment
  if isAbove shown then if last then names.dropLast ++ [""] else names.dropLast
  else if isHere shown then if last then names ++ [""] else names
  else names ++ [String.ofList shown]

def isIgnored (c : Char) : Bool := c == '\t' || c == '\n' || c == '\r'

/-- The address with one more segment in place of an empty last one; dots add nothing. -/
def push? (u : Url) (segment : List Char) : Option Url :=
  match u.path with
  | .whole _ => none
  | .segments names =>
    let names := if names.length > 1 && names.getLast? == some "" then names.dropLast else names
    if segment == ['.'] || segment == ['.', '.'] then some { u with path := .segments names }
    else
      let names := if names == [""] then [] else names
      let written c := Percent.inSegment c || (c == '\\' && takesBackslash u.scheme)
      some { u with
        path := .segments
          (addSegment written names (segment.filter fun c => !isIgnored c) true) }

end Url

end NodeCanvas
