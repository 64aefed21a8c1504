import IniSettings.Document.Basic

/-!
# The text of a document

`render` builds the whole text. `pieces` cuts the same text into the parts in which it is written
to a file, so that a write can fail between any two of them.
-/

namespace IniSettings

def Section.renderPair (pair : String × String) : String :=
  pair.1 ++ " = " ++ pair.2 ++ "\n"

def Section.render (content : Section) : String :=
  "[" ++ content.name ++ "]\n" ++ String.join (content.pairs.map renderPair)

def Document.render (document : Document) : String :=
  String.join (document.sections.map Section.render)

def Section.pieces (content : Section) : List String :=
  ["[", content.name, "]\n"] ++
    content.pairs.flatMap fun (key, value) => [key, " = ", value, "\n"]

def Document.pieces (document : Document) : List String :=
  document.sections.flatMap Section.pieces

end IniSettings
