import IniSettings.Abort

/-!
# Names of fields

A name is a namespace and a key with a colon between them, or a key alone. The key is what follows
the last colon; under it the file holds the field.
-/

namespace IniSettings

structure FieldName where
  space : Option String
  key : String
  key_ne : key ≠ ""
deriving DecidableEq

namespace FieldName

/-- What stands before and after the last colon of a text that has one. -/
def splitAtLastColon : List Char → Option (List Char × List Char)
  | [] => none
  | c :: rest =>
    match splitAtLastColon rest with
    | some (before, after) => some (c :: before, after)
    | none => if c = ':' then some ([], rest) else none

def text (name : FieldName) : String :=
  match name.space with
  | none => name.key
  | some space => space ++ ":" ++ name.key

def namespaceText (name : FieldName) : String :=
  name.space.getD ""

def keyOffset (name : FieldName) : Nat :=
  match name.space with
  | none => 0
  | some space => space.utf8ByteSize + 1

/-- The name that a text spells. It must not be empty or end in a colon. -/
def ofText (text : String) : Except Abort FieldName :=
  let (space, key) :=
    match splitAtLastColon text.toList with
    | none => (none, text)
    | some (before, after) => (some (String.ofList before), String.ofList after)
  if key_ne : key ≠ "" then .ok ⟨space, key, key_ne⟩ else .error .emptyFieldKey

end FieldName

end IniSettings
