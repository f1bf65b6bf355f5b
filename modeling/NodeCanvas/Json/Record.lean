import NodeCanvas.Json.Source
import NodeCanvas.Number.Binary64

/-!
Reading records from documents. A record is an object whose members are its fields, or an array
of its fields in their declared order. Fields that a record does not declare are skipped, or kept
by the records that say so.
-/
namespace NodeCanvas

/-- The fields of a record as found in a document. -/
structure Fields where
  declared : List (String × Source)
  others : List (String × Source)
  /-- The fields were told apart by their places. -/
  byPlace : Bool

namespace Source

def text? : Source → Option String
  | .str s => some s
  | _ => none

def flag? : Source → Option Bool
  | .bool b => some b
  | _ => none

/-- A whole number that fits a number of bits, written without sign, point and exponent. -/
def natural? (bits : Nat) : Source → Option Nat
  | .num (.whole n) => if 0 ≤ n ∧ n < (1 <<< bits : Nat) then some n.toNat else none
  | _ => none

def double? : Source → Option Binary64
  | .num n => some (.finite n.toDouble)
  | _ => none

def list? {α : Type} (read : Source → Option α) : Source → Option (List α)
  | .arr items => items.mapM read
  | _ => none

def collect? {α : Type} (read : Source → Option α) (d : Dict String α) :
    List (Option String × Source) → Option (Dict String α)
  | [] => some d
  | (key, member) :: rest => do
    let key ← key
    let value ← read member
    collect? read (d.insert key value) rest

def dict? {α : Type} (read : Source → Option α) : Source → Option (Dict String α)
  | .obj members => collect? read .empty members
  | _ => none

/-- The members of an object, told apart by whether they are declared. A declared one may not be
repeated, and every key has to be readable. -/
def sortMembers? (names : List String) (found : Fields) :
    List (Option String × Source) → Option Fields
  | [] => some found
  | (none, _) :: _ => none
  | (some key, member) :: rest =>
    if names.contains key then
      if found.declared.any fun field => field.1 == key then none
      else
        sortMembers? names { found with declared := found.declared ++ [(key, member)] } rest
    else
      sortMembers? names { found with others := found.others ++ [(key, member)] } rest

def openFields? (names : List String) : Source → Option Fields
  | .obj members => sortMembers? names ⟨[], [], false⟩ members
  | _ => none

/-- The fields of a record that is written as an object or as an array. -/
def fields? (names : List String) : Source → Option Fields
  | .arr items =>
    if items.length ≤ names.length then some ⟨names.zip items, [], true⟩ else none
  | s => s.openFields? names

end Source

namespace Fields

def find? (f : Fields) (name : String) : Option Source :=
  (f.declared.find? fun field => field.1 == name).map (·.2)

def required? {α : Type} (f : Fields) (name : String) (read : Source → Option α) : Option α :=
  (f.find? name).bind read

/-- A field that stands for a default when it is left out; `null` is no way to leave it out. -/
def given? {α : Type} (f : Fields) (name : String) (default : α) (read : Source → Option α) :
    Option α :=
  match f.find? name with
  | none => some default
  | some s => read s

def optional? {α : Type} (f : Fields) (name : String) (read : Source → Option α) :
    Option (Option α) :=
  match f.find? name with
  | none | some .null => some none
  | some s => (read s).map some

/-- A field that may be `null`, and may be left out only where fields have names. -/
def nullable? {α : Type} (f : Fields) (name : String) (read : Source → Option α) :
    Option (Option α) :=
  if f.byPlace ∧ (f.find? name).isNone then none else f.optional? name read

def others? (f : Fields) : Option (Dict String Json) :=
  Source.collect? Source.toJson? .empty (f.others.map fun field => (some field.1, field.2))

end Fields

/-- Types whose values have a form in documents. -/
class Written (α : Type) where
  ofSource? : Source → Option α
  toJson : α → Json

namespace Written

variable {α : Type} [Written α]

instance : Written Json := ⟨Source.toJson?, id⟩

instance : Written String := ⟨Source.text?, .str⟩

instance : Written (List α) := ⟨Source.list? ofSource?, fun items => .arr (items.map toJson)⟩

instance : Written (Dict String α) :=
  ⟨Source.dict? ofSource?, fun d => .obj (d.entries.map fun entry => (entry.1, toJson entry.2))⟩

def ofText? (text : String) : Option α := (Source.ofText? text).bind ofSource?

end Written

end NodeCanvas
