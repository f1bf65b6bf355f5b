import NodeCanvas.NodeType.Written

namespace NodeCanvas

structure Listing where
  order : List String := []
  types : Dict String NodeType := .empty
  count : Nat := 0

namespace Listing

def fieldNames : List String := ["nodes", "schemas", "total_count"]

def ofSource? (s : Source) : Option Listing := do
  let f ← s.fields? fieldNames
  return {
    order := ← f.given? "nodes" [] (Source.list? Source.text?)
    types := ← f.given? "schemas" .empty (Source.dict? NodeType.ofSource?)
    count := ← f.given? "total_count" 0 (Source.natural? 64)
  }

def toJson (l : Listing) : Json := .record [
  Json.member "nodes" (.texts l.order),
  Json.member "schemas" (.obj (l.types.entries.map fun entry => (entry.1, entry.2.toJson))),
  Json.member "total_count" (.natural l.count)]

instance : Written Listing := ⟨ofSource?, toJson⟩

end Listing

structure ListingReply where
  success : Bool
  listing : Listing

namespace ListingReply

def fieldNames : List String := ["success", "data"]

def ofSource? (s : Source) : Option ListingReply := do
  let f ← s.fields? fieldNames
  return {
    success := ← f.required? "success" Source.flag?
    listing := ← f.given? "data" {} Listing.ofSource?
  }

def toJson (r : ListingReply) : Json := .record [
  Json.member "success" (.bool r.success),
  Json.member "data" r.listing.toJson]

instance : Written ListingReply := ⟨ofSource?, toJson⟩

end ListingReply

structure Catalog where
  types : Dict String NodeType := .empty
  /-- The keys, in the order in which they were first added. -/
  order : List String := []
deriving DecidableEq

namespace Catalog

def get? (c : Catalog) (key : String) : Option NodeType := c.types.get? key

def contains (c : Catalog) (key : String) : Bool := c.types.contains key

/-- A type under a key; a key that is known keeps its place. -/
def insertAt (c : Catalog) (key : String) (t : NodeType) : Catalog where
  types := c.types.insert key t
  order := if c.contains key then c.order else c.order ++ [key]

def insert (c : Catalog) (t : NodeType) : Catalog := c.insertAt t.key t

def shown (c : Catalog) : List NodeType := c.order.filterMap c.get?

def size (c : Catalog) : Nat := c.types.size

def isEmpty (c : Catalog) : Bool := c.types.isEmpty

theorem get?_insertAt_self (c : Catalog) (key : String) (t : NodeType) :
    (c.insertAt key t).get? key = some t := by
  simp [insertAt, get?]

theorem get?_insertAt_of_ne (c : Catalog) {key query : String} (t : NodeType)
    (h : query ≠ key) : (c.insertAt key t).get? query = c.get? query := by
  simp [insertAt, get?, Dict.get?_insert_of_ne _ _ h]

/-- The listed types first, then the others in ascending order of their keys. -/
def ofListing (l : Listing) : Catalog :=
  let (c, rest) := l.order.foldl (fun (c, rest) key =>
    match rest.get? key with
    | some t => (c.insertAt key t, rest.erase key)
    | none => (c, rest)) (({} : Catalog), l.types)
  rest.entries.foldl (fun c entry => c.insertAt entry.1 entry.2) c

end Catalog

end NodeCanvas
