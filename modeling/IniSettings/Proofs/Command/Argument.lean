import IniSettings.Command.Argument
import IniSettings.Proofs.Field.Accepted

/-!
# What is shown of a typed value

A text or a truth value is shown as it was typed, and a number as its decimal digits: a plus sign
and leading zeros are gone.
-/

namespace IniSettings
open Text

namespace Argument

theorem readDigits_ok {value n : Nat} {digits : List Char}
    (read : readDigits value digits = .ok n) (small : value < UInt64.size) :
    digits.all Decimal.isDigit = true ∧ n = Decimal.valueFrom value digits ∧ n < UInt64.size := by
  induction digits generalizing value with
  | nil =>
    obtain rfl := Except.ok.inj read
    exact ⟨rfl, rfl, small⟩
  | cons c rest ih =>
    rw [readDigits] at read
    cases digit : Decimal.isDigit c with
    | false =>
      rw [digit] at read
      cases read
    | true =>
      rw [digit, if_neg (by decide)] at read
      dsimp only at read
      split at read
      next next =>
        obtain ⟨digits, same, fits⟩ := ih read next
        exact ⟨by rw [List.all_cons, digit, digits]; rfl, same, fits⟩
      next => cases read

structure Spells (typed : String) (n : Nat) : Prop where
  digits : ∃ digits, (typed.toList = digits ∨ typed.toList = '+' :: digits) ∧
    Decimal.parse? digits = some n
  fits : n < UInt64.size

theorem parse?_of_readDigits {n : Nat} {digits : List Char} (nonempty : digits ≠ [])
    (read : readDigits 0 digits = .ok n) :
    Decimal.parse? digits = some n ∧ n < UInt64.size := by
  obtain ⟨isDigits, rfl, fits⟩ := readDigits_ok read (by decide)
  have notEmpty : digits.isEmpty = false := by simpa using nonempty
  refine ⟨?_, fits⟩
  rw [Decimal.parse?, notEmpty, isDigits]
  rfl

theorem spells_of_readNumber {typed : String} {n : Nat}
    (read : readNumber typed.toList = .ok n) : Spells typed n := by
  unfold readNumber at read
  split at read
  next => cases read
  next => cases read
  next digits notAlone signed =>
    obtain ⟨parsed, fits⟩ := parse?_of_readDigits notAlone read
    exact ⟨⟨digits, .inr signed, parsed⟩, fits⟩
  next nonempty _ _ =>
    obtain ⟨parsed, fits⟩ := parse?_of_readDigits nonempty read
    exact ⟨⟨_, .inl rfl, parsed⟩, fits⟩

theorem box_bool {typed : String} {boxed : BoxedValue} (typedIn : box .bool typed = .ok boxed) :
    ∃ value, boxed = .bool value ∧ truthText value = typed := by
  rw [box] at typedIn
  split at typedIn
  next yes => exact ⟨true, (Except.ok.inj typedIn).symm, yes.symm⟩
  next =>
    split at typedIn
    next no => exact ⟨false, (Except.ok.inj typedIn).symm, no.symm⟩
    next => cases typedIn

theorem box_unsigned {typed : String} {boxed : BoxedValue}
    (typedIn : box .unsigned typed = .ok boxed) :
    ∃ value, boxed = .unsigned value ∧ Spells typed value.toNat := by
  rw [box] at typedIn
  split at typedIn
  next n read =>
    have spelled := spells_of_readNumber read
    refine ⟨UInt64.ofNat n, (Except.ok.inj typedIn).symm, ?_⟩
    rwa [UInt64.toNat_ofNat_of_lt' spelled.fits]
  next => cases typedIn

end Argument

/-- What a field of the type shows after that text was typed for it. -/
inductive FieldType.Shows : FieldType → String → String → Prop where
  | unsigned {width : Width} {typed : String} {n : Nat} (spelled : Argument.Spells typed n) :
      Shows (.unsigned width) typed (toString n)
  | bool (typed : String) : Shows .bool typed typed
  | text (typed : String) : Shows .text typed typed
  | bounded (capacity : Nat) (typed : String) : Shows (.bounded capacity) typed typed

namespace FieldType

variable {type : FieldType} {value : type.Value} {boxed : BoxedValue} {typed : String}

theorem shows_of_box {current : type.Value}
    (typedIn : Argument.box (type.box current).kind typed = .ok boxed)
    (opened : type.unbox boxed = .ok value) : type.Shows typed (type.format value) := by
  cases type with
  | unsigned width =>
    obtain ⟨number, rfl, spelled⟩ := Argument.box_unsigned typedIn
    rw [unbox] at opened
    split at opened
    next fits =>
      obtain rfl := Except.ok.inj opened
      exact .unsigned spelled
    next => cases opened
  | bool =>
    obtain ⟨answer, rfl, same⟩ := Argument.box_bool typedIn
    obtain rfl := Except.ok.inj opened
    rw [← same]
    exact .bool (truthText answer)
  | text =>
    obtain rfl := Except.ok.inj typedIn
    rw [(of_unbox_text opened).2]
    exact .text typed
  | bounded capacity =>
    obtain rfl := Except.ok.inj typedIn
    rw [(of_unbox_text opened).2]
    exact .bounded capacity typed

end FieldType

end IniSettings
