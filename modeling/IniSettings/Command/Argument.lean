import IniSettings.Field.Boxed
import IniSettings.Text.Decimal

/-!
# Values from a command line

A value that is typed in becomes a boxed value of the kind that the field has now. Numbers may
have a plus sign here. A text that is no number is refused at its first character that shows it.
-/

namespace IniSettings

inductive NumberError where
  | empty
  | invalidDigit
  | tooLarge
deriving DecidableEq, Repr

def NumberError.message : NumberError → String
  | .empty => "cannot parse integer from empty string"
  | .invalidDigit => "invalid digit found in string"
  | .tooLarge => "number too large to fit in target type"

inductive ArgumentError where
  | notBool (text : String)
  | notUnsigned (text : String) (cause : NumberError)
deriving DecidableEq, Repr

def ArgumentError.chain : ArgumentError → List String
  | .notBool text => ["expected `true` or `false`, got " ++ Text.quoted text]
  | .notUnsigned text cause =>
    ["expected an unsigned integer, got " ++ Text.quoted text, cause.message]

namespace Argument

def readDigits (value : Nat) : List Char → Except NumberError Nat
  | [] => .ok value
  | c :: rest =>
    if !Text.Decimal.isDigit c then .error .invalidDigit
    else
      let value := value * 10 + Text.Decimal.digitValue c
      if value < UInt64.size then readDigits value rest else .error .tooLarge

def readNumber : List Char → Except NumberError Nat
  | [] => .error .empty
  | ['+'] => .error .invalidDigit
  | '+' :: rest => readDigits 0 rest
  | text => readDigits 0 text

def box (kind : BoxedValue.Kind) (text : String) : Except ArgumentError BoxedValue :=
  match kind with
  | .bool =>
    if text = "true" then .ok (.bool true)
    else if text = "false" then .ok (.bool false)
    else .error (.notBool text)
  | .unsigned =>
    match readNumber text.toList with
    | .ok value => .ok (.unsigned (UInt64.ofNat value))
    | .error cause => .error (.notUnsigned text cause)
  | .text => .ok (.text text)

end Argument

end IniSettings
