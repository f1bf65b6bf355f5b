import NodeCanvas.Pattern.Basic
import NodeCanvas.Pattern.Reading

namespace NodeCanvas.Pattern

inductive Atom where
  | literal (c : Char)
  | set (s : CharSet)
  | anchor (a : Anchor)

namespace Reading

/-- The characters that have a meaning of their own somewhere in a pattern. -/
def isMark (c : Char) : Bool := "\\.+*?()|[]\x7b\x7d^$#&-~".toList.contains c

def isEscapable (c : Char) : Bool :=
  isMark c || (c.toNat < 0x80 && !c.isAlphanum && c != '<' && c != '>')

def charOf (digits : List Char) : Reading Char := do
  let code := Text.hexNumber digits
  guard code.isValidChar
  return Char.ofNat code

def hexDigits : Nat → Reading (List Char)
  | 0 => return []
  | n + 1 => do
    let c ← current
    guard (Text.isHexDigit c)
    advancePast
    return c :: (← hexDigits n)

/-- A character by its code: so many hexadecimal digits, or any number of them between braces.
Outside of Unicode two digits are an octet, which stands for a character below 0x80 only. -/
def hexEscape (count : Nat) : Reading Char := do
  advancePast
  if (← current) = '\x7b' then
    advancePast
    let digits ← upTo '\x7d' (← rounds)
    guard (!digits.isEmpty ∧ digits.all Text.isHexDigit)
    charOf digits
  else
    let c ← charOf (← hexDigits count)
    guard (count ≠ 2 ∨ c.toNat < 0x80 ∨ (← get).flags.unicode)
    return c

/-- The name, or the name and the value, of a property between braces, and whether the value is
told to be another one. -/
def splitProperty (name : List Char) : List Char × Option (List Char) × Bool :=
  let at? (c : Char) : Option (List Char × List Char) :=
    if name.contains c then some (name.takeWhile (· != c), (name.dropWhile (· != c)).drop 1)
    else none
  match at? '!' with
  | some (property, '=' :: value) => (property, some value, true)
  | _ =>
    match (at? ':').or (at? '=') with
    | some (property, value) => (property, some value, false)
    | none => (name, none, false)

def propertyClass (negated : Bool) : Reading CharSet := do
  guard (← get).flags.unicode
  advancePast
  let c ← current
  let (found, negatedAgain) ←
    if c = '\x7b' then do
      advancePast
      let (property, value, different) := splitProperty (← upTo '\x7d' (← rounds))
      match value with
      | none => pure (named? property, false)
      | some value => pure (valued? property value, different)
    else do
      guard (c ≠ '\\')
      advancePast
      pure (named? [c], false)
  let some set := found | failure
  let set ← withCase set
  return if negated != negatedAgain then set.complement else set

def wordEdgeNamed (unicode : Bool) (name : List Char) : Reading Anchor :=
  match String.ofList name with
  | "start" => return .wordStart unicode
  | "end" => return .wordEnd unicode
  | "start-half" => return .beforeWord unicode
  | "end-half" => return .afterWord unicode
  | _ => failure

/-- A word edge; braces after it name its kind unless they hold a number of repetitions. -/
def wordEdge : Reading Anchor := do
  let r ← get
  let unicode := r.flags.unicode
  let isNameChar (c : Char) : Bool := c.isAlpha || c == '-'
  if r.text.head? ≠ some '\x7b' then return .wordEdge unicode
  advancePast
  if !isNameChar (← current) then
    set r
    return .wordEdge unicode
  let name ← upTo '\x7d' (← rounds)
  guard (name.all isNameChar)
  wordEdgeNamed unicode name

def letterEscape (letter : Char) : Reading Atom := do
  let unicode := (← get).flags.unicode
  match letter with
  | 'a' => return .literal '\x07'
  | 'f' => return .literal '\x0c'
  | 't' => return .literal '\t'
  | 'n' => return .literal '\n'
  | 'r' => return .literal '\r'
  | 'v' => return .literal '\x0b'
  | 'A' => return .anchor .textStart
  | 'z' => return .anchor .textEnd
  | 'b' => return .anchor (← wordEdge)
  | 'B' => return .anchor (.noWordEdge unicode)
  | '<' => return .anchor (.wordStart unicode)
  | '>' => return .anchor (.wordEnd unicode)
  | _ => failure

def escape : Reading Atom := do
  advance
  let c ← current
  match c with
  | 'x' => return .literal (← hexEscape 2)
  | 'u' => return .literal (← hexEscape 4)
  | 'U' => return .literal (← hexEscape 8)
  | 'p' => return .set (← propertyClass false)
  | 'P' => return .set (← propertyClass true)
  | _ =>
    advance
    match letterClass? (← get).flags.unicode c.toLower with
    | some set => return .set (← checked (if c.isUpper then set.complement else set))
    | none => if isEscapable c then return .literal c else letterEscape c

end Reading

end NodeCanvas.Pattern
