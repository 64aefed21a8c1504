import IniSettings.Document.Basic

/-!
# What reading a text gives

A document of all that could be understood, and a diagnostic for each line that could not.
-/

namespace IniSettings

inductive Defect where
  | expectedSectionBegin
  | unterminatedHeaderAtLineEnd
  | unterminatedHeaderAtTextEnd
  | emptySectionName
  | junkAfterHeader
  | expectedAssignment
  | expectedKey
deriving DecidableEq, Repr

def Defect.message : Defect → String
  | .expectedSectionBegin => "expected begin of section"
  | .unterminatedHeaderAtLineEnd => "end of line within section header"
  | .unterminatedHeaderAtTextEnd => "end of file within section header"
  | .emptySectionName => "empty section name"
  | .junkAfterHeader => "got junk after section header"
  | .expectedAssignment => "expected assignment"
  | .expectedKey => "expected key name"

/-- A defect and its line. Lines count from 1. -/
structure Diagnostic where
  line : Nat
  defect : Defect
deriving DecidableEq, Repr

structure Reading where
  document : Document
  diagnostics : List Diagnostic
deriving DecidableEq, Repr

def Reading.isClean (reading : Reading) : Bool :=
  reading.diagnostics.isEmpty

end IniSettings
