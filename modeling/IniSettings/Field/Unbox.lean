import IniSettings.Json.Reader

/-!
# What comes of writing a boxed value

`UnboxError` is why a value is not one of a field's type, `UnboxResult` what became of the request
to give it to a field.
-/

namespace IniSettings

inductive UnboxError where
  | typeMismatch
  | outOfRange
deriving DecidableEq, Repr

def UnboxError.message : UnboxError → String
  | .typeMismatch => "boxed value has the wrong type for this field"
  | .outOfRange => "boxed value is out of range for this field"

inductive UnboxResult where
  | updated
  | unchanged
  | keyUnknown
  | valueTypeInvalid
  | valueInvalid
  | permissionDenied
deriving DecidableEq, Repr

namespace UnboxResult

def all : List UnboxResult :=
  [.updated, .unchanged, .keyUnknown, .valueTypeInvalid, .valueInvalid, .permissionDenied]

def ofError : UnboxError → UnboxResult
  | .typeMismatch => .valueTypeInvalid
  | .outOfRange => .valueInvalid

/-- The field holds the value now, whether it did before or not. -/
def isAccepted : UnboxResult → Bool
  | .updated | .unchanged => true
  | _ => false

def display : UnboxResult → String
  | .updated => "updated"
  | .unchanged => "unchanged"
  | .keyUnknown => "unknown key"
  | .valueTypeInvalid => "invalid value type"
  | .valueInvalid => "invalid value"
  | .permissionDenied => "permission denied"

def wireName : UnboxResult → String
  | .updated => "updated"
  | .unchanged => "unchanged"
  | .keyUnknown => "key_unknown"
  | .valueTypeInvalid => "value_type_invalid"
  | .valueInvalid => "value_invalid"
  | .permissionDenied => "permission_denied"

def ofWireName? (name : String) : Option UnboxResult :=
  all.find? fun result => result.wireName == name

/-- Reads the name, or an object that maps it to null. -/
def ofJson? (text : String) : Option UnboxResult :=
  match Json.parse? text with
  | some (.string (some name)) => ofWireName? name
  | some (.object [(some name, .null)]) => ofWireName? name
  | _ => none

end UnboxResult

end IniSettings
