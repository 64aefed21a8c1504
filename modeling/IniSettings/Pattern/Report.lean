import IniSettings.Document.Grammar
import IniSettings.Pattern.Mistake

/-!
# Reports of mistakes

A report shows the pattern with the place of a mistake marked under it. The lines of a pattern that
has more than one are numbered, and a span over several lines is told in words.
-/

namespace IniSettings.Pattern

namespace Report

def spaces (count : Nat) : String :=
  String.ofList (List.replicate count ' ')

/-- A line as it is shown. The carriage return before a line feed is left out. -/
def shownLine (line : Line) : String :=
  if line.closed ∧ line.content.getLast? = some '\r' then String.ofList line.content.dropLast
  else String.ofList line.content

/-- The width of the numbers of lines. A single line has none. -/
def numberWidth (pattern : List Char) : Nat :=
  let count := (Line.split pattern).length + if pattern.getLast? = some '\n' then 1 else 0
  if count ≤ 1 then 0 else (toString count).length

def margin (width number : Nat) : String :=
  if width = 0 then spaces 4
  else
    let digits := toString number
    spaces (width - digits.length) ++ digits ++ ": "

/-- The marks under a line, from a column on that counts from 0. The spans are in order. -/
def marks (column : Nat) : List Span → String
  | [] => ""
  | span :: rest =>
    let start := span.start.column - 1
    let length := max 1 (span.stop.column - span.start.column)
    spaces (start - column) ++ String.ofList (List.replicate length '^') ++
      marks (max column start + length) rest

def spans (mistake : Mistake) : List Span :=
  match mistake.earlier with
  | none => [mistake.span]
  | some earlier =>
    if earlier.start.index ≤ mistake.span.start.index then [earlier, mistake.span]
    else [mistake.span, earlier]

def isOneLine (span : Span) : Bool :=
  span.start.line == span.stop.line

/-- A numbered line, and under it the marks of the spans in it. -/
def notatedLine (width : Nat) (spans : List Span) (number : Nat) (line : Line) : String :=
  let shown := margin width number ++ shownLine line ++ "\n"
  match spans.filter fun span => span.start.line == number with
  | [] => shown
  | marked => shown ++ spaces (if width = 0 then 4 else width + 2) ++ marks 0 marked ++ "\n"

def notated (pattern : List Char) (spans : List Span) : String :=
  let width := numberWidth pattern
  String.join ((Line.split pattern).zipIdx.map fun (line, index) =>
    notatedLine width spans (index + 1) line)

def note (span : Span) : String :=
  "on line " ++ toString span.start.line ++ " (column " ++ toString span.start.column ++
    ") through line " ++ toString span.stop.line ++ " (column " ++
    toString (span.stop.column - 1) ++ ")"

def divider : String :=
  String.ofList (List.replicate 79 '~') ++ "\n"

end Report

def Mistake.report (mistake : Mistake) (pattern : List Char) : String :=
  let spans := Report.spans mistake
  let shown := Report.notated pattern (spans.filter Report.isOneLine)
  let verdict := "error: " ++ mistake.kind.message
  if pattern.contains '\n' then
    let notes := (spans.filter fun span => !Report.isOneLine span).map Report.note
    let told := if notes.isEmpty then "" else "\n".intercalate notes ++ "\n"
    "regex parse error:\n" ++ Report.divider ++ shown ++ Report.divider ++ told ++ verdict
  else "regex parse error:\n" ++ shown ++ verdict

end IniSettings.Pattern
