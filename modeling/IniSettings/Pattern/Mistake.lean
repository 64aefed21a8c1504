import IniSettings.Pattern.Place

/-!
# Mistakes in a pattern

What can be wrong with a pattern, and where. Some mistakes repeat something, and say where it stood
first.
-/

namespace IniSettings.Pattern

inductive Mistake.Kind where
  | classEscape
  | classOrder
  | classBoundary
  | classUnclosed
  | decimalTooLarge
  | hexNoScalar
  | hexDigit
  | escapeAtEnd
  | escapeUnknown
  | flagDangling
  | flagRepeated
  | negationRepeated
  | flagAtEnd
  | flagUnknown
  | nameRepeated
  | nameEmpty
  | nameCharacter
  | nameUnclosed
  | groupUnclosed
  | groupUnopened
  | tooDeep
  | countNoDecimal
  | countUnclosed
  | nothingRepeated
  | boundaryUnclosed
  | boundaryAtEnd
  | propertyMalformed
  | backreference
  | lookAround
  /-- What needs Unicode, where Unicode is turned off. -/
  | unicodeOff
  /-- What could match half a character. -/
  | partialCharacter
  | noProperties
  | noPerlClasses
  | noCases
deriving DecidableEq, Repr

/-- How deep groups, classes and repetitions can lie in each other. -/
def depthLimit : Nat := 250

def Mistake.Kind.message : Mistake.Kind → String
  | .classEscape => "invalid escape sequence found in character class"
  | .classOrder => "invalid character class range, the start must be <= the end"
  | .classBoundary => "invalid range boundary, must be a literal"
  | .classUnclosed => "unclosed character class"
  | .decimalTooLarge => "decimal literal invalid"
  | .hexNoScalar => "hexadecimal literal is not a Unicode scalar value"
  | .hexDigit => "invalid hexadecimal digit"
  | .escapeAtEnd => "incomplete escape sequence, reached end of pattern prematurely"
  | .escapeUnknown => "unrecognized escape sequence"
  | .flagDangling => "dangling flag negation operator"
  | .flagRepeated => "duplicate flag"
  | .negationRepeated => "flag negation operator repeated"
  | .flagAtEnd => "expected flag but got end of regex"
  | .flagUnknown => "unrecognized flag"
  | .nameRepeated => "duplicate capture group name"
  | .nameEmpty => "empty capture group name"
  | .nameCharacter => "invalid capture group character"
  | .nameUnclosed => "unclosed capture group name"
  | .groupUnclosed => "unclosed group"
  | .groupUnopened => "unopened group"
  | .tooDeep =>
    "exceed the maximum number of nested parentheses/brackets (" ++ toString depthLimit ++ ")"
  | .countNoDecimal => "repetition quantifier expects a valid decimal"
  | .countUnclosed => "unclosed counted repetition"
  | .nothingRepeated => "repetition operator missing expression"
  | .boundaryUnclosed =>
    "special word boundary assertion is either unclosed or contains an invalid character"
  | .boundaryAtEnd =>
    "found either the beginning of a special word boundary or a bounded repetition on a \\b " ++
      "with an opening brace, but no closing brace"
  | .propertyMalformed => "invalid Unicode character class"
  | .backreference => "backreferences are not supported"
  | .lookAround => "look-around, including look-ahead and look-behind, is not supported"
  | .unicodeOff => "Unicode not allowed here"
  | .partialCharacter => "pattern can match invalid UTF-8"
  | .noProperties => "Unicode property not found"
  | .noPerlClasses =>
    "Unicode-aware Perl class not found (make sure the unicode-perl feature is enabled)"
  | .noCases =>
    "Unicode-aware case insensitivity matching is not available " ++
      "(make sure the unicode-case feature is enabled)"

structure Mistake where
  kind : Mistake.Kind
  span : Span
  /-- Where that which is repeated stood first. -/
  earlier : Option Span
deriving DecidableEq, Repr

def Mistake.at (kind : Mistake.Kind) (span : Span) : Mistake :=
  ⟨kind, span, none⟩

end IniSettings.Pattern
