import NodeCanvas.Command

namespace NodeCanvas

inductive Task where
  | compile (file : String)
  | catalog
  | run (file : String)
  | push (file : String) (name : Option String)
  | pull (id output : String) (now : Instant)
  | list
deriving DecidableEq

structure Invocation where
  task : Task
  settingsFile : Option String
  baseUrl : Option String
deriving DecidableEq

namespace Invocation

def usage : String := Command.lines [
  "node-canvas catalog",
  "node-canvas compile FILE",
  "node-canvas run FILE",
  "node-canvas push FILE [--name NAME]",
  "node-canvas pull ID --output FILE --now MILLISECONDS",
  "node-canvas list",
  "Every command takes --config FILE and --api-url URL.",
  "Requests are printed, one a line, and replies are read, one a line."]

/-- Options with their values, the last one of a name, and the other words. -/
def split? : List String → Option (Dict String String × List String)
  | [] => some (.empty, [])
  | word :: rest =>
    if word.startsWith "--" then
      match rest with
      | value :: rest =>
        (split? rest).map fun (options, words) =>
          (if options.contains word then options else options.insert word value, words)
      | [] => none
    else (split? rest).map fun (options, words) => (options, word :: words)

def task? (options : Dict String String) : List String → Option Task
  | ["compile", file] => some (.compile file)
  | ["catalog"] => some .catalog
  | ["run", file] => some (.run file)
  | ["push", file] => some (.push file (options.get? "--name"))
  | ["pull", id] =>
    return .pull id (← options.get? "--output") ⟨← (← options.get? "--now").toInt?⟩
  | ["list"] => some .list
  | _ => none

def ofWords? (words : List String) : Option Invocation := do
  let (options, words) ← split? words
  return {
    task := ← task? options words
    settingsFile := options.get? "--config"
    baseUrl := options.get? "--api-url" }

def file? (i : Invocation) : Option String :=
  match i.task with
  | .compile file | .run file | .push file _ => some file
  | _ => none

def dialogue (i : Invocation) (content : Option String) : Dialogue Report :=
  match i.task with
  | .compile _ => .done (Command.compile content)
  | .catalog => Command.catalog
  | .run _ => Command.run content
  | .push _ name => Command.push content name
  | .pull id output now => Command.pull id output now
  | .list => Command.list

def needsService (i : Invocation) : Bool :=
  match i.task with
  | .compile _ => false
  | _ => true

def client (i : Invocation) (found : Option Service.SettingsFile) :
    Except CommandFault Service.Client :=
  Except.mapError .service do
    let settings ← Service.Settings.resolve found none
    Service.Client.ofSettings (settings.withBaseUrl i.baseUrl)

end Invocation

end NodeCanvas
