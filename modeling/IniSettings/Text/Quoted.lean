import IniSettings.Text.Hexadecimal
import IniSettings.Text.Visible

/-!
# Quoted text

How messages show a text that may hold anything: between double quotes, on one line, with every
character that has no visible form written by number.
-/

namespace IniSettings.Text

def quotedChar (c : Char) : List Char :=
  match c with
  | '\x00' => ['\\', '0']
  | '\t' => ['\\', 't']
  | '\r' => ['\\', 'r']
  | '\n' => ['\\', 'n']
  | '"' => ['\\', '"']
  | '\\' => ['\\', '\\']
  | c => if isVisible c then [c] else ['\\', 'u', '{'] ++ hexDigits c.toNat ++ ['}']

def quoted (text : String) : String :=
  String.ofList ('"' :: text.toList.flatMap quotedChar ++ ['"'])

end IniSettings.Text
