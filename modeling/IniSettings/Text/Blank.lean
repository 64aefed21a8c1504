/-!
# Blanks

The blanks of the file format are the space, the tab and the carriage return. They are dropped
at both ends of a line, around a key and around a value, and nowhere else.
-/

namespace IniSettings.Text

/-- A space, a tab or a carriage return. The line feed ends a line and is not a blank. -/
def isBlank (c : Char) : Bool :=
  c == ' ' || c == '\t' || c == '\r'

def skipBlanks (text : List Char) : List Char :=
  text.dropWhile isBlank

def trimEnd (text : List Char) : List Char :=
  (text.reverse.dropWhile isBlank).reverse

def isTrimmed (text : List Char) : Bool :=
  !text.head?.any isBlank && !text.getLast?.any isBlank

/-- A text that a line of the file can hold as a value: it spans one line and has no outer
blanks, so reading the line gives the same text back. -/
def isStorable (text : String) : Bool :=
  text.toList.all (fun c => c != '\n' && c != '\r') && isTrimmed text.toList

end IniSettings.Text
