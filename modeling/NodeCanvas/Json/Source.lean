import NodeCanvas.Json.Token

/-!
Documents as written: members in their order, repeated ones included. What a reader has to refuse
but may skip is a leaf of its own: a numeral without a value, a text with half a surrogate pair,
and whatever is nested too deeply.
-/
namespace NodeCanvas

inductive Source where
  | null
  | bool (b : Bool)
  | num (n : Number)
  | str (s : String)
  | arr (items : List Source)
  | obj (members : List (Option String × Source))
  | unreadable

namespace Source

instance : Inhabited Source := ⟨null⟩

/-- Arrays and objects inside one another, from this many on, are not read. -/
def depthLimit : Nat := 128

inductive Frame where
  | arr (items : List Source)
  | obj (members : List (Option String × Source)) (key : Option String)

inductive Expected where
  | value
  | firstItem
  | firstKey
  | key
  | colon
  | separator
  | nothing
deriving DecidableEq

structure Builder where
  open_ : List Frame := []
  depth : Nat := 0
  expected : Expected := .value
  built : Option Source := none

namespace Builder

def place (b : Builder) (s : Source) : Builder :=
  match b.open_ with
  | [] => { b with expected := .nothing, built := some s }
  | .arr items :: rest => { b with open_ := .arr (s :: items) :: rest, expected := .separator }
  | .obj members key :: rest =>
    { b with open_ := .obj ((key, s) :: members) none :: rest, expected := .separator }

def opened (b : Builder) (frame : Frame) (expected : Expected) : Builder :=
  { b with open_ := frame :: b.open_, depth := b.depth + 1, expected := expected }

def closed (b : Builder) (rest : List Frame) (s : Source) : Builder :=
  { b with open_ := rest, depth := b.depth - 1 }.place
    (if depthLimit ≤ b.depth then .unreadable else s)

def value? (b : Builder) (s : Source) : Option Builder :=
  if b.expected = .value ∨ b.expected = .firstItem then some (b.place s) else none

def step? (b : Builder) (t : Json.Token) : Option Builder :=
  match t with
  | .null => b.value? .null
  | .bool v => b.value? (.bool v)
  | .num n => b.value? (n.elim .unreadable .num)
  | .str s =>
    if b.expected = .key ∨ b.expected = .firstKey then
      match b.open_ with
      | .obj members _ :: rest =>
        some { b with open_ := .obj members s :: rest, expected := .colon }
      | _ => none
    else b.value? (s.elim .unreadable .str)
  | .colon => if b.expected = .colon then some { b with expected := .value } else none
  | .openArray =>
    if b.expected = .value ∨ b.expected = .firstItem then
      some (b.opened (.arr []) .firstItem)
    else none
  | .openObject =>
    if b.expected = .value ∨ b.expected = .firstItem then
      some (b.opened (.obj [] none) .firstKey)
    else none
  | .closeArray =>
    match b.open_ with
    | .arr items :: rest =>
      if b.expected = .separator ∨ b.expected = .firstItem then
        some (b.closed rest (.arr items.reverse))
      else none
    | _ => none
  | .closeObject =>
    match b.open_ with
    | .obj members _ :: rest =>
      if b.expected = .separator ∨ b.expected = .firstKey then
        some (b.closed rest (.obj members.reverse))
      else none
    | _ => none
  | .comma =>
    if b.expected = .separator then
      match b.open_ with
      | .arr _ :: _ => some { b with expected := .value }
      | .obj _ _ :: _ => some { b with expected := .key }
      | [] => none
    else none

end Builder

def ofTokens? (tokens : List Json.Token) : Option Source :=
  (tokens.foldlM Builder.step? {}).bind fun b => if b.expected = .nothing then b.built else none

def ofText? (text : String) : Option Source :=
  (Json.tokens? text.toList).bind ofTokens?

mutual
/-- The value of a document: of repeated members the last one, in ascending order of keys. -/
def toJson? : Source → Option Json
  | .null => some .null
  | .bool b => some (.bool b)
  | .num n => some (.num n)
  | .str s => some (.str s)
  | .arr items => (itemsToJson? items).map .arr
  | .obj members => (membersToJson? .empty members).map .ofDict
  | .unreadable => none

def itemsToJson? : List Source → Option (List Json)
  | [] => some []
  | item :: rest => do
    let item ← item.toJson?
    let rest ← itemsToJson? rest
    return item :: rest

def membersToJson? (seen : Dict String Json) :
    List (Option String × Source) → Option (Dict String Json)
  | [] => some seen
  | (key, member) :: rest => do
    let key ← key
    let member ← member.toJson?
    membersToJson? (seen.insert key member) rest
end

mutual
def ofJson : Json → Source
  | .null => .null
  | .bool b => .bool b
  | .num n => .num n
  | .str s => .str s
  | .arr items => .arr (itemsOfJson items)
  | .obj members => .obj (membersOfJson members)

def itemsOfJson : List Json → List Source
  | [] => []
  | item :: rest => ofJson item :: itemsOfJson rest

def membersOfJson : List (String × Json) → List (Option String × Source)
  | [] => []
  | (key, member) :: rest => (some key, ofJson member) :: membersOfJson rest
end

end Source

namespace Json

def ofText? (text : String) : Option Json := (Source.ofText? text).bind Source.toJson?

end Json

end NodeCanvas
