import IniSettings.Document.Reading
import IniSettings.Text.Blank

/-!
# Scanning a text

`Scanner` walks a text with one cursor and three states: it expects the begin of a section, the
rest of a section header, or an assignment in an open section. Each step reads one construct, or
reports it and skips its line. Every mark of the format is a single character, so the cursor is
the text not yet read. `Document.scan` runs the scanner to the end of a text.
-/

namespace IniSettings

inductive Expectation where
  | sectionBegin
  | sectionName
  /-- A pair of the section of that number. -/
  | assignment (index : Nat)
deriving DecidableEq, Repr

structure Scanner where
  rest : List Char
  line : Nat
  expectation : Expectation
  document : Document
  /-- What was reported, the last line first. -/
  reported : List Diagnostic
deriving DecidableEq, Repr

namespace Scanner

def start (text : List Char) : Scanner :=
  ⟨text, 1, .sectionBegin, Document.empty, []⟩

def reading (scanner : Scanner) : Reading :=
  ⟨scanner.document, scanner.reported.reverse⟩

def expect (scanner : Scanner) (expectation : Expectation) : Scanner :=
  { scanner with expectation }

/-- Moves the cursor within its line. -/
def moveTo (scanner : Scanner) (rest : List Char) : Scanner :=
  { scanner with rest }

def nextLine (scanner : Scanner) (rest : List Char) : Scanner :=
  { scanner with rest, line := scanner.line + 1 }

/-- Moves the cursor past the next line feed or, without one, to the end. -/
def skipLine (scanner : Scanner) (text : List Char) : Scanner :=
  match text.dropWhile (· != '\n') with
  | [] => scanner.moveTo []
  | _ :: rest => scanner.nextLine rest

def report (scanner : Scanner) (defect : Defect) : Scanner :=
  { scanner with reported := ⟨scanner.line, defect⟩ :: scanner.reported }

/-- Reports a defect of the current line, of which `text` is left, and skips the line. -/
def reject (scanner : Scanner) (defect : Defect) (text : List Char) : Scanner :=
  (scanner.report defect).skipLine text

def enterSection (scanner : Scanner) (name : List Char) : Scanner :=
  let (document, index) := scanner.document.openSection (String.ofList name)
  { scanner with expectation := .assignment index, document }

def assign (scanner : Scanner) (index : Nat) (key value : List Char) : Scanner :=
  let document := scanner.document.modifyAt index fun content =>
    content.assign (String.ofList key) (String.ofList value)
  { scanner with document }

/-- Moves past blanks at the end of the text, or stops there. -/
def finish (scanner : Scanner) : Option Scanner :=
  if scanner.rest.isEmpty then none else some (scanner.moveTo [])

/-- Looks for a header. All but headers and lines of blanks are out of place here. -/
def sectionBegin (scanner : Scanner) : Option Scanner :=
  match Text.skipBlanks scanner.rest with
  | [] => scanner.finish
  | '\n' :: rest => some (scanner.nextLine rest)
  | '[' :: rest => some ((scanner.moveTo rest).expect .sectionName)
  | text => some (scanner.reject .expectedSectionBegin text)

/-- Reads the rest of a header, whose bracket is read. The first closing bracket ends the name,
and only trailing blanks are dropped from it. -/
def sectionName (scanner : Scanner) : Scanner :=
  let scanner := scanner.expect .sectionBegin
  let (name, text) := scanner.rest.span fun c => c != ']' && c != '\n'
  match text with
  | [] => (scanner.report .unterminatedHeaderAtTextEnd).moveTo []
  | ']' :: rest =>
    let name := Text.trimEnd name
    if name.isEmpty then scanner.reject .emptySectionName rest
    else
      match Text.skipBlanks rest with
      | [] => (scanner.moveTo []).enterSection name
      | '\n' :: rest => (scanner.nextLine rest).enterSection name
      | rest => scanner.reject .junkAfterHeader rest
  | text => scanner.reject .unterminatedHeaderAtLineEnd text

/-- Reads a pair of the section of that number. A bracket is left for `sectionBegin`. -/
def assignment (scanner : Scanner) (index : Nat) : Option Scanner :=
  match Text.skipBlanks scanner.rest with
  | [] => scanner.finish
  | '\n' :: rest => some (scanner.nextLine rest)
  | '[' :: rest => some ((scanner.moveTo ('[' :: rest)).expect .sectionBegin)
  | text =>
    let (key, text) := text.span fun c => c != '=' && c != '\n'
    match text with
    | '=' :: rest =>
      let key := Text.trimEnd key
      if key.isEmpty then some (scanner.reject .expectedKey rest)
      else
        let (value, _) := (Text.skipBlanks rest).span (· != '\n')
        some ((scanner.assign index key (Text.trimEnd value)).skipLine rest)
    | text => some (scanner.reject .expectedAssignment text)

def step (scanner : Scanner) : Option Scanner :=
  match scanner.expectation with
  | .sectionBegin => scanner.sectionBegin
  | .sectionName => some scanner.sectionName
  | .assignment index => scanner.assignment index

def run : (fuel : Nat) → Scanner → Scanner
  | 0, scanner => scanner
  | fuel + 1, scanner =>
    match scanner.step with
    | none => scanner
    | some next => run fuel next

/-- Steps enough for any text of that length: a step that reads nothing expects the begin of a
section afterwards, and the step after it reads something or ends the run. -/
def enough (length : Nat) : Nat :=
  2 * length + 2

end Scanner

def Document.scan (text : String) : Reading :=
  (Scanner.run (Scanner.enough text.toList.length) (Scanner.start text.toList)).reading

end IniSettings
