import NodeCanvas.Form.Edit
import NodeCanvas.Workflow.Dialogue

namespace NodeCanvas.Form

/-- Whether a component has a dependent list that has arrived without its value. -/
def isStale (f : Form) (cache : ChoiceCache) (c : Component) : Bool :=
  match c.fetched?, f.choiceKey? c with
  | some source, some key =>
    source.dependsOn.isSome && leftChoices (f.value? c.name) (cache.slot? key)
  | _, _ => false

def staleFields (f : Form) (cache : ChoiceCache) : List String :=
  (f.components.filter (f.isStale cache)).map (·.name)

def reconcile (f : Form) (cache : ChoiceCache) : List String × Form :=
  let stale := f.staleFields cache
  (stale, stale.foldl (fun f name => f.setValue name (.str "")) f)

/-- The lists that visible components need and that were never asked for, each once. -/
def missingKeys (f : Form) (cache : ChoiceCache) : List ChoiceKey :=
  (((f.components.filter (·.visible)).filterMap f.choiceKey?).filter fun key =>
    (cache.slot? key).isNone).eraseDups

def fetchAll (cache : ChoiceCache) : List ChoiceKey → Dialogue ChoiceCache
  | [] => .done cache
  | key :: rest =>
    match cache.begin key with
    | (false, _) => fetchAll cache rest
    | (true, cache) =>
      .ask (.choices key) fun answer =>
        fetchAll (cache.complete key (Except.mapError Failure.message answer)) rest

/-- Fetch what is missing, then reset the fields whose value is not offered. -/
def resolve (f : Form) (cache : ChoiceCache) :
    Dialogue (List String × Form × ChoiceCache) := do
  let cache ← fetchAll cache (f.missingKeys cache)
  let (reset, f) := f.reconcile cache
  return (reset, f, cache)

end NodeCanvas.Form
