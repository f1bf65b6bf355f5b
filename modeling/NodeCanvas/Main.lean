import NodeCanvas.Invocation

namespace NodeCanvas.CommandLine

def readContent? (path : String) : IO (Option String) := do
  try
    return some (← IO.FS.readFile path)
  catch _ =>
    return none

def readSettings (path : String) : IO Service.SettingsFile := do
  try
    return .text (← IO.FS.readFile path)
  catch e =>
    match e with
    | .noFileOrDirectory .. => return .absent
    | _ => return .unreadable

def exchange (request : Service.Request) : IO (Option Service.Reply) := do
  let output ← IO.getStdout
  output.putStrLn request.toJson.compact
  output.flush
  let line ← (← IO.getStdin).getLine
  return (Source.ofText? line).bind Service.Reply.ofSource?

def work (i : Invocation) : IO Report := do
  let content ← (i.file?.elim (pure none) readContent? : IO (Option String))
  if i.needsService then
    let settings ← i.settingsFile.mapM readSettings
    match i.client settings with
    | .ok client => (i.dialogue content).hold (client.answer exchange)
    | .error e => return .ofFault e
  else (i.dialogue content).hold fun call =>
    return Except.mapError (Service.Fault.toFailure call) (.error (.carry .unreachable))

def store (i : Invocation) (r : Report) : IO Report := do
  match r.document, i.task with
  | some document, .pull _ path _ =>
    try
      IO.FS.writeFile path document.toText
      return r
    catch _ =>
      return .unwritten
  | _, _ => return r

end NodeCanvas.CommandLine

open NodeCanvas in
def main (words : List String) : IO UInt32 := do
  match Invocation.ofWords? words with
  | none =>
    (← IO.getStderr).putStr Invocation.usage
    return 2
  | some i =>
    let report ← CommandLine.store i (← CommandLine.work i)
    (← IO.getStdout).putStr report.output
    match report.result with
    | .ok () => return 0
    | .error e =>
      (← IO.getStderr).putStrLn e.message
      return e.exitCode.toUInt32
