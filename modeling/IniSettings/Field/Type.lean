import IniSettings.Field.BoundedText
import IniSettings.Field.Boxed
import IniSettings.Field.Unbox
import IniSettings.Text.Blank
import IniSettings.Text.Decimal

/-!
# Types of fields

A field holds an unsigned number of some width, a truth value, a text, or a text of bounded size.
Each type reads its values from the text of the file and writes them there, and converts them from
and to boxed values. Reading the file is lenient with texts and strict with numbers; a boxed value
has to be one that the file can hold.
-/

namespace IniSettings

inductive Width where
  | bits8
  | bits16
  | bits32
  | bits64
deriving DecidableEq, Repr

def Width.bits : Width → Nat
  | .bits8 => 8
  | .bits16 => 16
  | .bits32 => 32
  | .bits64 => 64

/-- The numbers of a width are those below this one. -/
def Width.limit (width : Width) : Nat :=
  Nat.pow 2 width.bits

inductive FieldType where
  | unsigned (width : Width)
  | bool
  | text
  | bounded (capacity : Nat)
deriving DecidableEq, Repr

namespace FieldType

def Value : FieldType → Type
  | .unsigned width => Fin width.limit
  | .bool => Bool
  | .text => String
  | .bounded capacity => BoundedText capacity

instance decidableEqValue : (type : FieldType) → DecidableEq type.Value
  | .unsigned _ => inferInstanceAs (DecidableEq (Fin _))
  | .bool => inferInstanceAs (DecidableEq Bool)
  | .text => inferInstanceAs (DecidableEq String)
  | .bounded _ => inferInstanceAs (DecidableEq (BoundedText _))

def format : (type : FieldType) → type.Value → String
  | .unsigned _, value => toString (Fin.val value)
  | .bool, value => truthText value
  | .text, value => value
  | .bounded _, value => BoundedText.text value

def parse? : (type : FieldType) → String → Option type.Value
  | .unsigned width, written => Text.Decimal.parseBelow? width.limit written.toList
  | .bool, written => some (decide (written = "true"))
  | .text, written => some written
  | .bounded _, written => some (BoundedText.truncated written)

def box : (type : FieldType) → type.Value → BoxedValue
  | .unsigned _, value => .unsigned (UInt64.ofNat (Fin.val value))
  | .bool, value => .bool value
  | .text, value => .text value
  | .bounded _, value => .text (BoundedText.text value)

/-- The value that a boxed value stands for. Nothing is cut or wrapped here. -/
def unbox : (type : FieldType) → BoxedValue → Except UnboxError type.Value
  | .unsigned width, .unsigned value =>
    if fits : value.toNat < width.limit then .ok (Fin.mk value.toNat fits)
    else .error .outOfRange
  | .bool, .bool value => .ok value
  | .text, .text value => if Text.isStorable value then .ok value else .error .outOfRange
  | .bounded _, .text value =>
    if Text.isStorable value then
      match BoundedText.ofText? value with
      | some value => .ok value
      | none => .error .outOfRange
    else .error .outOfRange
  | _, _ => .error .typeMismatch

def describe : (type : FieldType) → type.Value → String
  | .unsigned _, value => toString (Fin.val value)
  | .bool, value => truthText value
  | .text, value => Text.quoted value
  | .bounded _, value =>
    "FixedString \x7b text: " ++ Text.quoted (BoundedText.text value) ++ " \x7d"

end FieldType

end IniSettings
