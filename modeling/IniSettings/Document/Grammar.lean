import IniSettings.Document.Reading
import IniSettings.Text.Blank

/-!
# The grammar of a line

The same format told line by line. A text is a list of lines, each closed by a line feed but
perhaps the last, and reading is a fold of one step over the lines. The step looks at nothing but
its line and the section that is open.
-/

namespace IniSettings

/-- A line without its line feed, and whether it had one. -/
structure Line where
  content : List Char
  closed : Bool
deriving DecidableEq, Repr

namespace Line

/-- Puts a character before the first line. -/
def extend (c : Char) : List Line → List Line
  | [] => [⟨[c], false⟩]
  | line :: rest => ⟨c :: line.content, line.closed⟩ :: rest

/-- The lines of a text. Nothing follows a line feed at the end of the text. -/
def split : List Char → List Line
  | [] => []
  | '\n' :: rest => ⟨[], true⟩ :: split rest
  | c :: rest => extend c (split rest)

inductive Form where
  | blank
  | header (name : List Char)
  | badHeader (defect : Defect)
  | pair (key value : List Char)
  | badPair (defect : Defect)
deriving DecidableEq, Repr

/-- The form of a line that begins with a bracket, which is not part of `text`. -/
def headerForm (text : List Char) (closed : Bool) : Form :=
  let (name, rest) := text.span (· != ']')
  match rest with
  | [] => .badHeader (if closed then .unterminatedHeaderAtLineEnd else .unterminatedHeaderAtTextEnd)
  | _ :: rest =>
    if (Text.trimEnd name).isEmpty then .badHeader .emptySectionName
    else if (Text.skipBlanks rest).isEmpty then .header (Text.trimEnd name)
    else .badHeader .junkAfterHeader

/-- The form of a line that begins with neither a blank nor a bracket. -/
def pairForm (text : List Char) : Form :=
  let (key, rest) := text.span (· != '=')
  match rest with
  | [] => .badPair .expectedAssignment
  | _ :: rest =>
    if (Text.trimEnd key).isEmpty then .badPair .expectedKey
    else .pair (Text.trimEnd key) (Text.trimEnd (Text.skipBlanks rest))

def form (line : Line) : Form :=
  match Text.skipBlanks line.content with
  | [] => .blank
  | '[' :: text => headerForm text line.closed
  | text => pairForm text

structure State where
  current : Option Nat
  line : Nat
  document : Document
  /-- What was reported, the last line first. -/
  reported : List Diagnostic
deriving DecidableEq, Repr

namespace State

def start : State :=
  ⟨none, 1, Document.empty, []⟩

def reading (state : State) : Reading :=
  ⟨state.document, state.reported.reverse⟩

def report (state : State) (defect : Defect) : State :=
  { state with reported := ⟨state.line, defect⟩ :: state.reported }

/-- What a line of that form changes, its number aside. A bad header closes the open section, a
bad pair does not. -/
def take (state : State) : Form → State
  | .blank => state
  | .header name =>
    let (document, index) := state.document.openSection (String.ofList name)
    { state with current := some index, document }
  | .badHeader defect => { state.report defect with current := none }
  | .pair key value =>
    match state.current with
    | none => state.report .expectedSectionBegin
    | some index =>
      let document := state.document.modifyAt index fun content =>
        content.assign (String.ofList key) (String.ofList value)
      { state with document }
  | .badPair defect =>
    match state.current with
    | none => state.report .expectedSectionBegin
    | some _ => state.report defect

def step (state : State) (line : Line) : State :=
  { state.take line.form with line := state.line + 1 }

end State

end Line

def Document.readLines (text : String) : Reading :=
  ((Line.split text.toList).foldl Line.State.step Line.State.start).reading

end IniSettings
