import IniSettings.Storage.Path

/-!
# Arguments

What the arguments and the environment of a process ask for. Options come first, each at most
once, then the command and what belongs to it. After two hyphens alone nothing is an option. An
option that is not given can be set by the environment.
-/

namespace IniSettings.CommandLine

structure Options where
  file : Path
  /-- The file is replaced as a whole and never written in place. -/
  atomic : Bool
  logFilter : Option String
deriving DecidableEq, Repr

inductive Request where
  | showFields (json : Bool)
  | get (name : String) (json : Bool)
  | set (name value : String)
  | reset
  | check
deriving DecidableEq, Repr

inductive Invocation where
  | version
  | help
  | run (options : Options) (request : Request)
deriving DecidableEq, Repr

inductive Refusal where
  | missingCommand
  | unknownCommand (name : String)
  | unknownOption (name : String)
  | repeatedOption (name : String)
  | missingValue (name : String)
  | invalidValue (name value : String)
  | unexpectedValue (value : String)
deriving DecidableEq, Repr

def Refusal.message : Refusal → String
  | .missingCommand => "a command is required"
  | .unknownCommand name => "there is no command " ++ name
  | .unknownOption name => "there is no option " ++ name
  | .repeatedOption name => name ++ " is given more than once"
  | .missingValue name => "a value is required for " ++ name
  | .invalidValue name value => value ++ " is no value for " ++ name
  | .unexpectedValue value => "nothing is expected at " ++ value

structure Given where
  file : Option String
  atomic : Bool
  logFilter : Option String
deriving DecidableEq, Repr

inductive Opening where
  | version
  | help
  | command (given : Given) (name : String) (arguments : List String)
deriving DecidableEq, Repr

namespace Given

def none : Given :=
  ⟨.none, false, .none⟩

/-- A path must not be empty. -/
def withFile (given : Given) (value : String) : Except Refusal Given :=
  if given.file.isSome then .error (.repeatedOption "--file")
  else if value = "" then .error (.missingValue "--file")
  else .ok { given with file := some value }

def withAtomic (given : Given) : Except Refusal Given :=
  if given.atomic then .error (.repeatedOption "--atomic")
  else .ok { given with atomic := true }

def withLogFilter (given : Given) (value : String) : Except Refusal Given :=
  if given.logFilter.isSome then .error (.repeatedOption "--log-level")
  else .ok { given with logFilter := some value }

end Given

def isOption (argument : String) : Bool :=
  argument.toList.head? == some '-' && argument != "-"

/-- The name of a long option, and the value after its first equals sign if it has one. -/
def splitLong (argument : String) : String × Option String :=
  match argument.toList.span (· != '=') with
  | (name, []) => (String.ofList name, none)
  | (name, _ :: value) => (String.ofList name, some (String.ofList value))

inductive Short where
  | version
  | help
  | fileValue (value : String)
  | file
  | unknown
deriving DecidableEq, Repr

/-- The first of the short options after a hyphen decides, since none of them is a mere flag. -/
def readShort : List Char → Short
  | 'V' :: _ => .version
  | 'h' :: _ => .help
  | ['f'] => .file
  | 'f' :: '=' :: value => .fileValue (String.ofList value)
  | 'f' :: value => .fileValue (String.ofList value)
  | _ => .unknown

def documented : List String :=
  ["show", "get", "set", "reset", "check", "help"]

def readHelp : List String → Except Refusal Opening
  | [] => .ok .help
  | [name] => if documented.contains name then .ok .help else .error (.unknownCommand name)
  | _ :: name :: _ => .error (.unknownCommand name)

def readOpening (given : Given) : List String → Except Refusal Opening
  | [] => .error .missingCommand
  | "--" :: [] => .error .missingCommand
  | "--" :: argument :: _ => .error (.unexpectedValue argument)
  | argument :: rest =>
    if !isOption argument then
      if argument = "help" then readHelp rest else .ok (.command given argument rest)
    else
      match splitLong argument, rest with
      | ("--version", none), _ => .ok .version
      | ("--help", none), _ => .ok .help
      | ("--atomic", none), rest =>
        match given.withAtomic with
        | .error refusal => .error refusal
        | .ok given => readOpening given rest
      | ("--file", some value), rest =>
        match given.withFile value with
        | .error refusal => .error refusal
        | .ok given => readOpening given rest
      | ("--log-level", some value), rest =>
        match given.withLogFilter value with
        | .error refusal => .error refusal
        | .ok given => readOpening given rest
      | ("--file", none), value :: rest =>
        if isOption value then .error (.missingValue "--file")
        else
          match given.withFile value with
          | .error refusal => .error refusal
          | .ok given => readOpening given rest
      | ("--log-level", none), value :: rest =>
        if isOption value then .error (.missingValue "--log-level")
        else
          match given.withLogFilter value with
          | .error refusal => .error refusal
          | .ok given => readOpening given rest
      | _, rest =>
        if argument.startsWith "--" then .error (.unknownOption argument)
        else
          match readShort (argument.toList.drop 1), rest with
          | .version, _ => .ok .version
          | .help, _ => .ok .help
          | .fileValue value, rest =>
            match given.withFile value with
            | .error refusal => .error refusal
            | .ok given => readOpening given rest
          | .file, value :: rest =>
            if isOption value then .error (.missingValue "--file")
            else
              match given.withFile value with
              | .error refusal => .error refusal
              | .ok given => readOpening given rest
          | .file, [] => .error (.missingValue "--file")
          | .unknown, _ => .error (.unknownOption argument)

structure Tail where
  help : Bool
  json : Bool
  values : List String
deriving DecidableEq, Repr

/-- Reads what stands after the command. Only some commands take `--json`, and each takes so many
values and no more. -/
def readTail (takesJson : Bool) (count : Nat) (tail : Tail) :
    (escaped : Bool) → List String → Except Refusal Tail
  | _, [] =>
    if tail.values.length = count then .ok tail else .error (.missingValue "<VALUE>")
  | escaped, argument :: rest =>
    if !escaped && argument == "--" then readTail takesJson count tail true rest
    else if !escaped && isOption argument then
      if argument = "--help" ∨ argument.startsWith "-h" then .ok { tail with help := true }
      else if argument ≠ "--json" ∨ !takesJson then .error (.unknownOption argument)
      else if tail.json then .error (.repeatedOption argument)
      else readTail takesJson count { tail with json := true } escaped rest
    else if tail.values.length = count then .error (.unexpectedValue argument)
    else readTail takesJson count { tail with values := tail.values ++ [argument] } escaped rest

def readRequest (name : String) (arguments : List String) : Except Refusal (Option Request) :=
  let read (takesJson : Bool) (count : Nat) :=
    readTail takesJson count ⟨false, false, []⟩ false arguments
  let request (tail : Tail) : Option Request :=
    if tail.help then none
    else
      match name, tail.values with
      | "show", [] => some (.showFields tail.json)
      | "get", [field] => some (.get field tail.json)
      | "set", [field, value] => some (.set field value)
      | "reset", [] => some .reset
      | "check", [] => some .check
      | _, _ => none
  match name with
  | "show" => (read true 0).map request
  | "get" => (read true 1).map request
  | "set" => (read false 2).map request
  | "reset" => (read false 0).map request
  | "check" => (read false 0).map request
  | _ => .error (.unknownCommand name)

def complete (given : Given) (environment : String → Option String) : Except Refusal Options := do
  let file ←
    match given.file, environment "INISTORE_FILE" with
    | some file, _ => Except.ok file
    | none, some "" => .error (.missingValue "--file")
    | none, some file => .ok file
    | none, none => .ok "device.ini"
  let atomic ←
    match given.atomic, environment "INISTORE_ATOMIC" with
    | true, _ => Except.ok true
    | false, some "true" => .ok true
    | false, some "false" => .ok false
    | false, some value => .error (.invalidValue "--atomic" value)
    | false, none => .ok false
  let logFilter :=
    match given.logFilter with
    | some text => some text
    | none => environment "INISTORE_LOG"
  return ⟨⟨file⟩, atomic, logFilter⟩

def invocation (arguments : List String) (environment : String → Option String) :
    Except Refusal Invocation := do
  match ← readOpening Given.none arguments with
  | .version => return .version
  | .help => return .help
  | .command given name rest =>
    match ← readRequest name rest with
    | none => return .help
    | some request =>
      let options ← complete given environment
      return .run options request

def logFilterOf (arguments : List String) (environment : String → Option String) :
    Option String :=
  match invocation arguments environment with
  | .ok (.run options _) => options.logFilter
  | _ => none

end IniSettings.CommandLine
