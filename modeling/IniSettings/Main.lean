import IniSettings.CommandLine.Process

/-!
# The program

Answers the calls of a script with the files of the machine, prints what the process prints, and
ends with its status. Nothing is decided here.
-/

namespace IniSettings.Main

open CommandLine

def ioError : IO.Error → IoError
  | .noFileOrDirectory .. => .noEntry
  | .alreadyExists .. => .entryExists
  | .inappropriateType .. => .isDirectory
  | .resourceBusy .. => .busy
  | error => .unnamed error.toString

/-- What an action gives, or the error that it ends with. -/
def attempt {α : Type} (action : IO α) : IO (Except IoError α) := do
  try
    return .ok (← action)
  catch error =>
    return .error (ioError error)

def makeParent (path : Path) : IO Unit := do
  match path.parent? with
  | none => return ()
  | some parent => if parent.text = "" then return () else IO.FS.createDirAll parent.text

/-- The file that is open for writing, if there is one. -/
abbrev Writing := Option IO.FS.Handle

/-- Does something to the open file. -/
def withOpen {α : Type} (writing : Writing) (action : IO.FS.Handle → IO α) :
    IO (Except IoError α) := do
  match writing with
  | none => return .error .notOpen
  | some handle => attempt (action handle)

def answer (writing : Writing) : (request : Call) → IO (request.Reply × Writing)
  | .read path => do
    let reply ← attempt (IO.FS.readBinFile path.text)
    return (reply.map ByteArray.toList, writing)
  | .create path => do
    let reply ← attempt do
      makeParent path
      IO.FS.Handle.mk path.text .write
    return (reply.map fun _ => (), reply.toOption)
  | .write bytes => do
    let reply ← withOpen writing fun handle => handle.write ⟨bytes.toArray⟩
    return (reply.map fun () => bytes.length, writing)
  | .flush => do
    let reply ← withOpen writing fun handle => handle.flush
    return (reply, writing)
  | .close => return ((), none)
  | .remove path => do
    let reply ← attempt (IO.FS.removeFile path.text)
    return (reply, writing)
  | .rename source target => do
    let reply ← attempt (IO.FS.rename source.text target.text)
    return (reply, writing)

def logLine (entry : LogEntry) : String :=
  let values := entry.values.map fun (name, value) => " " ++ name ++ "=" ++ value
  entry.level.name ++ " " ++ entry.message ++ String.join values

def perform {α : Type} (wanted : LogEntry → Bool) : Script α → Writing → IO α
  | .done value, _ => return value
  | .call request next, writing => do
    let (reply, writing) ← answer writing request
    perform wanted (next reply) writing
  | .report (.logged entry) rest, writing => do
    if wanted entry then IO.eprintln (logLine entry)
    perform wanted rest writing
  | .report (.notified _) rest, writing => perform wanted rest writing

def usage : String :=
  "Usage: inistore [--file <PATH>] [--atomic] [--log-level <FILTER>] <COMMAND>\n\n" ++
    "Commands:\n" ++
    "  show [--json]        Print every field\n" ++
    "  get <NAME> [--json]  Print one field\n" ++
    "  set <NAME> <VALUE>   Change one field and store the file\n" ++
    "  reset                Store the defaults\n" ++
    "  check                Report malformed lines, unknown keys and invalid values\n"

def knownVariables : List String :=
  ["INISTORE_FILE", "INISTORE_ATOMIC", "INISTORE_LOG"]

def readEnvironment : IO (String → Option String) := do
  let values ← knownVariables.mapM fun name => do
    return (name, ← IO.getEnv name)
  return fun name => (values.lookup name).join

def program (arguments : List String) : IO UInt32 := do
  let environment ← readEnvironment
  let wanted := LogFilter.wanted (logFilterOf arguments environment)
  match ← perform wanted (CommandLine.run arguments environment) none with
  | .refused refusal =>
    IO.eprintln ("error: " ++ refusal.message ++ "\n\n" ++ usage)
    return 2
  | .help =>
    IO.print usage
    return 0
  | .exited exit =>
    IO.print exit.output
    IO.eprint exit.errors
    return UInt32.ofNat exit.status

end IniSettings.Main

def main (arguments : List String) : IO UInt32 :=
  IniSettings.Main.program arguments
