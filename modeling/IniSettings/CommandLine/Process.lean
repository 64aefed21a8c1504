import IniSettings.Command.Basic
import IniSettings.CommandLine.Arguments
import IniSettings.CommandLine.LogFilter
import IniSettings.Device

/-!
# The process

What the program does with its arguments: the files it touches, what it prints, and the status
with which it ends. The status is 0 if all went well, 2 if a name belongs to no field, and else 1.
-/

namespace IniSettings.CommandLine

structure Exit where
  status : Nat
  output : String
  errors : String
deriving DecidableEq, Repr

inductive Answer where
  | refused (refusal : Refusal)
  | help
  | exited (exit : Exit)
deriving DecidableEq, Repr

def version : String :=
  "inistore 0.1.0"

def success (output : String) : Exit :=
  ⟨0, output, ""⟩

/-! ## Errors -/

def hang (indent : String) (text : String) : String :=
  ("\n" ++ indent).intercalate ((text.toList.splitOn '\n').map String.ofList)

def causeLines : List String → List String
  | [] => []
  | [cause] => ["    " ++ hang "    " cause]
  | causes =>
    causes.zipIdx.map fun (cause, number) =>
      let digits := toString number
      String.ofList (List.replicate (5 - digits.length) ' ') ++ digits ++ ": " ++
        hang "       " cause

def errorReport (message : String) (causes : List String) : String :=
  match causes with
  | [] => "Error: " ++ message ++ "\n"
  | causes =>
    "Error: " ++ message ++ "\n\nCaused by:\n" ++ "\n".intercalate (causeLines causes) ++ "\n"

def failure (error : CommandError) : Exit :=
  ⟨1, "", errorReport error.message error.causes⟩

def fieldFailure (error : CommandError) : Exit :=
  if error.isUnknownField then
    let names := Device.schema.fields.map fun field => "  " ++ Device.schema.nameText field
    ⟨2, "", Command.lines (["error: " ++ error.message, "known fields:"] ++ names)⟩
  else failure error

def aborted (abort : Abort) : Exit :=
  ⟨101, "", abort.message ++ "\n"⟩

/-! ## Requests -/

def checked (manager : Manager Device.schema) (problems : List Problem) : Exit :=
  if problems.isEmpty then success (manager.path.text ++ ": ok\n")
  else
    let count := toString problems.length ++ " problem(s) found\n"
    ⟨1, Command.report manager problems ++ count, ""⟩

def runLoaded (manager : Manager Device.schema) : Request → Script Exit
  | .showFields json => return success (Command.showFields manager json)
  | .get name json =>
    match Command.get manager name json with
    | .error error => return fieldFailure error
    | .ok text => return success text
  | .set name value => do
    let outcome ← Command.set manager name value
    match outcome.result with
    | .error abort => return aborted abort
    | .ok (.error error) => return fieldFailure error
    | .ok (.ok result) => return success (name ++ ": " ++ result.display ++ "\n")
  | .reset => do
    let (_, stored) ← Command.reset manager
    match stored with
    | .error error => return failure error
    | .ok () => return success ""
  | .check => do
    match ← Command.check manager with
    | .error error => return failure error
    | .ok problems => return checked manager problems

def Request.needsTable : Request → Bool
  | .showFields _ | .get .. | .set .. => true
  | .reset | .check => false

def runRequest (options : Options) (request : Request) : Script Exit := do
  let mode := if options.atomic then WriteMode.replace else .truncate
  let manager := (Manager.new options.file (Values.initial Device.schema)).withMode mode
  if request.needsTable then
    let loaded ← manager.load
    match loaded.result with
    | .error abort => return aborted abort
    | .ok _ => runLoaded loaded.manager request
  else runLoaded manager request

def runInvocation (options : Options) (request : Request) : Script Exit :=
  match options.logFilter with
  | none => runRequest options request
  | some text =>
    match LogFilter.check text with
    | .ok () => runRequest options request
    | .error error =>
      return ⟨1, "", errorReport ("invalid log filter " ++ Text.quoted text) error.chain⟩

def run (arguments : List String) (environment : String → Option String) : Script Answer :=
  match invocation arguments environment with
  | .error refusal => return .refused refusal
  | .ok .version => return .exited (success (version ++ "\n"))
  | .ok .help => return .help
  | .ok (.run options request) => do
    let exit ← runInvocation options request
    return .exited exit

end IniSettings.CommandLine
