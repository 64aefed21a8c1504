import IniSettings.Pattern.Depth
import IniSettings.Pattern.Reader
import IniSettings.Pattern.Report
import IniSettings.Pattern.Support

/-!
# Checking patterns

A pattern is good if it can be read, is not too deep and needs nothing that is not supported. The
bounds of words are found with ASCII only.
-/

namespace IniSettings.Pattern

inductive Failure where
  | mistake (mistake : Mistake)
  | unicodeBoundary
deriving DecidableEq, Repr

def Failure.chain (pattern : List Char) : Failure → List String
  | .mistake found => ["error building NFA", "error parsing regex", found.report pattern]
  | .unicodeBoundary =>
    ["unsupported regex feature for DFAs: cannot build DFAs for regexes with Unicode word " ++
      "boundaries; switch to ASCII word boundaries, or heuristically enable Unicode word " ++
      "boundaries or use a different regex engine"]

def readChecked (text : List Char) : Except Mistake Expression := do
  let expression ← read text
  expression.checkDepth 0
  let _ ← expression.check .initial
  return expression

def check (text : List Char) : Except Failure Unit :=
  match readChecked text with
  | .error mistake => .error (.mistake mistake)
  | .ok expression =>
    if (expression.findBoundary .initial).1 then .error .unicodeBoundary else .ok ()

end IniSettings.Pattern
