import NodeCanvas.Json.Record

namespace NodeCanvas.Source

/-- The member under a key, which may not be repeated, and the others. -/
def takeMember? (key : String) :
    List (Option String × Source) → Option (Option Source × List (Option String × Source))
  | [] => some (none, [])
  | (name, member) :: rest => do
    let (found, others) ← takeMember? key rest
    if name = some key then
      if found.isSome then none else some (some member, others)
    else some (found, (name, member) :: others)

def tagged? (key : String) (s : Source) : Option (Source × Source) := do
  discard s.toJson?
  match s with
  | .obj members =>
    let (tag, others) ← takeMember? key members
    return (← tag, .obj others)
  | .arr (tag :: fields) => return (tag, .arr fields)
  | _ => none

def tagName? (s : Source) : Option String := s.text?

/-- The name of a kind, which inside another record may be given by its place among the names. -/
def innerTagName? (names : List String) : Source → Option String
  | .str name => some name
  | .num (.whole n) => if 0 ≤ n then names[n.toNat]? else none
  | _ => none

def noFields? : Source → Option Unit
  | .obj _ => some ()
  | .arr [] => some ()
  | _ => none

end NodeCanvas.Source
