import IniSettings.Document.ByteScanner
import IniSettings.Field.Name

/-!
# Where names and texts are cut

A name is split past its last colon, and a text that is too long is cut between two characters. Both
places are looked for backwards among the bytes.
-/

namespace IniSettings

namespace Text.Utf8

/-- Goes back from a place to the one just past the last colon before it, byte by byte, or to the
beginning if there is none. -/
def backToColon (bytes : Bytes) : (place : Nat) → Except Fault Nat
  | 0 => .ok 0
  | place + 1 =>
    match bytes[place]? with
    | none => .error (.noByte place)
    | some byte => if isMark ':' byte then .ok (place + 1) else backToColon bytes place

/-- Goes back from a place to one between two characters, byte by byte. `none` says that there was
none down to the beginning. -/
def stepBack? (bytes : Bytes) : Nat → Option Nat
  | 0 => if isBoundary bytes 0 then some 0 else none
  | place + 1 => if isBoundary bytes (place + 1) then some (place + 1) else stepBack? bytes place

end Text.Utf8

namespace FieldName
open Text Utf8

/-- The key of a name, cut out of its bytes. -/
def keyIn (bytes : Bytes) : Except Fault String := do
  let place ← backToColon bytes bytes.length
  slice bytes place bytes.length

/-- The namespace of a name, cut out of its bytes. -/
def namespaceIn (bytes : Bytes) : Except Fault String := do
  match ← backToColon bytes bytes.length with
  | 0 => return ""
  | colon + 1 => slice bytes 0 colon

end FieldName

end IniSettings
