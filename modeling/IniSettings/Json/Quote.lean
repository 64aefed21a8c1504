import IniSettings.Text.Quoted

/-!
# Writing JSON

Strings as JSON writes them, and the two layouts of an object whose members are written already:
compact, and spread over lines with two blanks for each level.
-/

namespace IniSettings.Json

def escapedChar (c : Char) : List Char :=
  match c with
  | '"' => ['\\', '"']
  | '\\' => ['\\', '\\']
  | '\x08' => ['\\', 'b']
  | '\x0c' => ['\\', 'f']
  | '\n' => ['\\', 'n']
  | '\r' => ['\\', 'r']
  | '\t' => ['\\', 't']
  | c =>
    if c.toNat < 0x10 then ['\\', 'u', '0', '0', '0'] ++ Text.hexDigits c.toNat
    else if c.toNat < 0x20 then ['\\', 'u', '0', '0'] ++ Text.hexDigits c.toNat
    else [c]

def quote (text : String) : String :=
  String.ofList ('"' :: text.toList.flatMap escapedChar ++ ['"'])

/-- An object on one line, without blanks. The values are JSON texts. -/
def compact (members : List (String × String)) : String :=
  let written := members.map fun (key, value) => quote key ++ ":" ++ value
  "\x7b" ++ ",".intercalate written ++ "\x7d"

/-- An object with one member a line, the members two blanks deeper than `indent`. -/
def spread (indent : String) (members : List (String × String)) : String :=
  let written := members.map fun (key, value) => indent ++ "  " ++ quote key ++ ": " ++ value
  "\x7b\n" ++ ",\n".intercalate written ++ "\n" ++ indent ++ "\x7d"

/-- An array with its items two blanks deeper than `indent`; an empty one takes no line. -/
def spreadArray (indent : String) (items : List String) : String :=
  if items.isEmpty then "[]"
  else
    let written := items.map fun item => indent ++ "  " ++ item
    "[\n" ++ ",\n".intercalate written ++ "\n" ++ indent ++ "]"

end IniSettings.Json
