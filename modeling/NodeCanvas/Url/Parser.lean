import NodeCanvas.Url.Basic

namespace NodeCanvas.Url

def cutAt (mark : Char → Bool) (text : List Char) : List Char × Option (List Char) :=
  match text.dropWhile fun c => !mark c with
  | [] => (text, none)
  | _ :: rest => (text.takeWhile fun c => !mark c, some rest)

def cutAtLast (mark : Char) (text : List Char) : Option (List Char) × List Char :=
  let after := (text.reverse.takeWhile (· != mark)).reverse
  if text.contains mark then (some (text.take (text.length - after.length - 1)), after)
  else (none, text)

def isSchemeChar (c : Char) : Bool := c.isAlphanum || c == '+' || c == '-' || c == '.'

/-- The scheme in lower case, and what follows its colon. -/
def scheme? (text : List Char) : Option (String × List Char) :=
  match cutAt (fun c => !isSchemeChar c) text, text with
  | (name, some rest), first :: _ =>
    if first.isAlpha && text.drop name.length == ':' :: rest then
      some (String.ofList (name.map Char.toLower), rest)
    else none
  | _, _ => none

def isSeparator (scheme : String) (c : Char) : Bool :=
  c == '/' || (c == '\\' && takesBackslash scheme)

def addSegments (names : List String) : List (List Char) → List String
  | [] => names
  | [last] => addSegment Percent.inPath names last true
  | segment :: rest => addSegments (addSegment Percent.inPath names segment false) rest

def segments (scheme : String) (path : List Char) : UrlPath :=
  .segments (addSegments [] (path.splitOnP (isSeparator scheme)))

/-- The path behind a host: one empty segment where there is none, on a network. -/
def pathAfterHost (scheme : String) (path : List Char) : UrlPath :=
  match path with
  | [] => if takesBackslash scheme then .segments [""] else .segments []
  | c :: rest => segments scheme (if isSeparator scheme c then rest else path)

/-- A host as far as its port, where brackets protect colons. -/
def hostText (inBrackets : Bool) : List Char → List Char × List Char
  | [] => ([], [])
  | c :: rest =>
    if c == ':' && !inBrackets then ([], c :: rest)
    else
      let (host, port) := hostText ((inBrackets || c == '[') && c != ']') rest
      (c :: host, port)

/-- The port, none if it is left out or usual, and what follows its digits. -/
def port? (scheme : String) (text : List Char) : Except UrlFault (Option Nat × List Char) :=
  match text with
  | ':' :: rest =>
    let digits := rest.takeWhile Char.isDigit
    let rest := rest.dropWhile Char.isDigit
    if !rest.isEmpty && rest.head? != some '\\' then .error .port
    else if Host.number digits > 65535 then .error .port
    else if digits.isEmpty || networkPorts.lookup scheme == some (Host.number digits) then
      .ok (none, rest)
    else .ok (some (Host.number digits), rest)
  | rest => .ok (none, rest)

def loginText (text : List Char) : Option String :=
  let (name, password) := cutAt (· == ':') text
  let name := String.ofList (Percent.encode Percent.inLogin name)
  match password with
  | none | some [] => if name.isEmpty then none else some name
  | some password =>
    some (name ++ ":" ++ String.ofList (Percent.encode Percent.inLogin password))

structure Tail where
  query : Option String
  fragment : Option String

def Tail.isEmpty (t : Tail) : Bool := t.query.isNone && t.fragment.isNone

def withHost (scheme : String) (tail : Tail) (text : List Char) : Except UrlFault Url := do
  let authority := text.takeWhile fun c => !isSeparator scheme c
  let path := text.dropWhile fun c => !isSeparator scheme c
  let (before, place) := cutAtLast '@' authority
  if before == some [] && place.isEmpty && !(path.isEmpty && tail.isEmpty) then
    throw .emptyHost
  let (name, rest) := hostText false place
  let onNetwork := isNetworkScheme scheme
  if name.isEmpty && (onNetwork || !rest.isEmpty) then
    throw .emptyHost
  let host ← if onNetwork then Host.ofNetwork name else Host.ofOther name
  let (port, rest) ← port? scheme rest
  let login := before.bind loginText
  if name.isEmpty && login.isSome then
    throw .emptyHost
  return {
    scheme, login, port
    host := if name.isEmpty then none else some host
    path := pathAfterHost scheme (rest ++ path)
    query := tail.query, fragment := tail.fragment }

/-- A letter with a colon or a bar, which names a drive. -/
def isDrive : List Char → Bool
  | [letter, mark] => letter.isAlpha && (mark == ':' || mark == '|')
  | _ => false

def ofFile (tail : Tail) (text : List Char) : Except UrlFault Url := do
  let slash := isSeparator "file"
  let url (host : Option Host) (path : List Char) : Url := {
    scheme := "file", host, path := pathAfterHost "file" path
    query := tail.query, fragment := tail.fragment }
  match text with
  | first :: second :: rest =>
    if slash first && slash second then
      let name := rest.takeWhile fun c => !slash c
      let path := rest.dropWhile fun c => !slash c
      if isDrive name then return url none rest
      else if name.isEmpty then return url none path
      else
        let host ← Host.ofNetwork name
        return url (if host = .name "localhost" then none else some host) path
    else return url none text
  | _ => return url none text

def ofText (text : String) : Except UrlFault Url := do
  let outer (c : Char) : Bool := c.toNat ≤ 0x20
  let trimmed := ((text.toList.dropWhile outer).reverse.dropWhile outer).reverse
  match scheme? (trimmed.filter fun c => !isIgnored c) with
  | none => throw .relative
  | some (scheme, rest) =>
    let (rest, fragment) := cutAt (· == '#') rest
    let (rest, query) := cutAt (· == '?') rest
    let inQuery c :=
      Percent.inQuery c || (c == '\x27' && takesBackslash scheme)
    let tail : Tail := {
      query := query.map fun text => String.ofList (Percent.encode inQuery text)
      fragment := fragment.map fun text =>
        String.ofList (Percent.encode
          (fun c => Percent.isControl c || " \"<>`".toList.contains c) text) }
    if isNetworkScheme scheme then
      withHost scheme tail (rest.dropWhile (isSeparator scheme))
    else if scheme == "file" then ofFile tail rest
    else
      match rest with
      | '/' :: '/' :: rest => withHost scheme tail rest
      | '/' :: rest =>
        return { scheme, path := segments scheme rest
                 query := tail.query, fragment := tail.fragment }
      | _ =>
        return { scheme
                 path := .whole (String.ofList (Percent.encode Percent.isControl rest))
                 query := tail.query, fragment := tail.fragment }

end NodeCanvas.Url
