import NodeCanvas.Graph.Basic

/-!
The parameter values that were last saved for each node during an editing session. A panel that is
opened again starts from them. The entry of a deleted node stays; its id is not used again.
-/
namespace NodeCanvas

structure Staging where
  saved : Dict String Parameters := .empty
deriving DecidableEq

namespace Staging

def get? (s : Staging) (id : String) : Option Parameters := s.saved.get? id

def save (s : Staging) (id : String) (values : Parameters) : Staging :=
  { saved := s.saved.insert id values }

def forget (s : Staging) (id : String) : Staging := { saved := s.saved.erase id }

def ofGraph (g : Graph) : Staging :=
  g.nodes.foldl (fun s n => s.save n.id n.parameters) {}

/-- The values with which the panel of a node opens: the saved ones, else the node's. -/
def opening? (s : Staging) (g : Graph) (id : String) : Option Parameters :=
  (g.node? id).map fun n => (s.get? id).getD n.parameters

/-- Values that replace those of a node, saved as well. -/
def commit? (s : Staging) (g : Graph) (id : String) (values : Parameters) :
    Option (Staging × Graph) :=
  (g.replaceParameters? id values).map fun g => (s.save id values, g)

/-- Values written over those of a node, the result saved as well. -/
def merge? (s : Staging) (g : Graph) (id : String) (values : Parameters) :
    Option (Staging × Graph) :=
  (g.updateParameters? id values).map fun g =>
    ((g.node? id).elim s fun n => s.save id n.parameters, g)

def toJson (s : Staging) : Json :=
  .obj (s.saved.entries.map fun entry => (entry.1, .ofDict entry.2))

def size (s : Staging) : Nat := s.saved.size

def ids (s : Staging) : List String := s.saved.keys

end Staging

end NodeCanvas
