import IniSettings.Json.Quote
import IniSettings.Json.Reader

/-!
# Boxed values

A boxed value is what a field's value looks like from outside: three kinds in place of the many
types of fields. On the wire it is a JSON object with two members, the kind under `type` and the
content under `value`.
-/

namespace IniSettings

def truthText (value : Bool) : String :=
  if value then "true" else "false"

inductive BoxedValue where
  | bool (value : Bool)
  | unsigned (value : UInt64)
  | text (value : String)
deriving DecidableEq, Repr

namespace BoxedValue

inductive Kind where
  | bool
  | unsigned
  | text
deriving DecidableEq, Repr

def Kind.name : Kind → String
  | .bool => "bool"
  | .unsigned => "unsigned"
  | .text => "text"

def kind : BoxedValue → Kind
  | .bool _ => .bool
  | .unsigned _ => .unsigned
  | .text _ => .text

def display : BoxedValue → String
  | .bool value => truthText value
  | .unsigned value => toString value.toNat
  | .text value => Text.quoted value

/-! ## The wire -/

def contentJson : BoxedValue → String
  | .bool value => truthText value
  | .unsigned value => toString value.toNat
  | .text value => Json.quote value

def members (boxed : BoxedValue) : List (String × String) :=
  [("type", Json.quote boxed.kind.name), ("value", boxed.contentJson)]

def toJson (boxed : BoxedValue) : String :=
  Json.compact boxed.members

def Kind.ofName? (name : String) : Option Kind :=
  if name = "bool" then some .bool
  else if name = "unsigned" then some .unsigned
  else if name = "text" then some .text
  else none

def Kind.ofJson? : Json → Option Kind
  | .string (some name) => ofName? name
  | .object [(some name, .null)] => ofName? name
  | _ => none

def ofContent? : Kind → Json → Option BoxedValue
  | .bool, .bool value => some (.bool value)
  | .unsigned, .natural value => some (.unsigned value)
  | .text, .string (some value) => some (.text value)
  | _, _ => none

def valuesAt (key : String) (members : List (Option String × Json)) : List Json :=
  (members.filter fun member => member.1 == some key).map Prod.snd

/-- Both members have to be there exactly once, in either order. Members under other keys are
ignored. An array of the kind's name and the content is accepted too. -/
def ofValue? : Json → Option BoxedValue
  | .object members =>
    if members.any fun member => member.1.isNone then none
    else
      match valuesAt "type" members, valuesAt "value" members with
      | [kind], [content] => (Kind.ofJson? kind).bind fun kind => ofContent? kind content
      | _, _ => none
  | .array [.string (some name), content] =>
    (Kind.ofName? name).bind fun kind => ofContent? kind content
  | _ => none

def ofJson? (text : String) : Option BoxedValue :=
  (Json.parse? text).bind ofValue?

end BoxedValue

end IniSettings
