import NodeCanvas.Character.Category
import NodeCanvas.Character.ScriptTable

namespace NodeCanvas.Character

def ofScript? (name : String) : Option CharSet := (lookup? scriptTable name).map .ofWritten

/-- The characters that are used in a script: its own and those that it shares. Of the characters
that belong to no one script only those count that are not used in certain scripts. -/
def usedInScript? (name : String) : Option CharSet := do
  let (names, own) ← scriptTable.find? fun entry => entry.1.contains name
  let code ← names.head?
  let set := CharSet.ofWritten own
  if code = "zyyy" ∨ code = "zinh" then
    some (set.diff (.ofWritten (sharedTable.flatMap (·.2))))
  else
    some (set.union (.ofWritten
      ((sharedTable.filter fun entry => entry.1.contains code).flatMap (·.2))))

end NodeCanvas.Character
