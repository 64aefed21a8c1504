import IniSettings.Field.Type
import IniSettings.Proofs.Document.RoundTrip
import IniSettings.Proofs.Field.BoundedText
import IniSettings.Proofs.Text.Decimal

/-!
# Values in the file

Every type reads back what it wrote. The file holds the text of a number or a truth value always,
and a text only if it stands on one line without outer blanks.
-/

namespace IniSettings
open Format Text

theorem isValue_toString (n : Nat) : IsValue (toString n) := by
  have digit : ∀ c ∈ (toString n).toList, Decimal.isDigit c = true := fun c =>
    Decimal.isDigit_of_mem_toString
  have notBlank : ∀ c ∈ (toString n).toList, isBlank c = false := by
    intro c member
    cases blank : isBlank c with
    | false => rfl
    | true =>
      have isDigit := digit c member
      simp only [isBlank, Bool.or_eq_true, beq_iff_eq] at blank
      rcases blank with (rfl | rfl) | rfl <;> simp [Decimal.isDigit] at isDigit
  exact ⟨fun feed => by simpa [Decimal.isDigit] using digit '\n' feed,
    isTrimmed_of_forall notBlank⟩

namespace FieldType

def Holdable : (type : FieldType) → type.Value → Prop
  | .unsigned _, _ => True
  | .bool, _ => True
  | .text, value => IsValue value
  | .bounded _, value => IsValue (BoundedText.text value)

instance decidableHoldable : (type : FieldType) → (value : type.Value) →
    Decidable (type.Holdable value)
  | .unsigned _, _ => inferInstanceAs (Decidable True)
  | .bool, _ => inferInstanceAs (Decidable True)
  | .text, value => IsValue.decidable value
  | .bounded _, value => IsValue.decidable (BoundedText.text value)

variable {type : FieldType}

theorem isValue_format_iff {value : type.Value} :
    IsValue (type.format value) ↔ type.Holdable value := by
  cases type with
  | unsigned width => exact iff_of_true (isValue_toString _) trivial
  | bool => cases value <;> exact iff_of_true (by decide) trivial
  | text => exact Iff.rfl
  | bounded capacity => exact Iff.rfl

theorem parse?_format (value : type.Value) : type.parse? (type.format value) = some value := by
  cases type with
  | unsigned width => exact Decimal.parseBelow?_toString value
  | bool => cases value <;> rfl
  | text => rfl
  | bounded capacity =>
    exact congrArg some (BoundedText.truncated_eq_of_fits (BoundedText.fits value))

theorem format_injective {value other : type.Value} (same : type.format value = type.format other) :
    value = other := by
  have read := parse?_format value
  rw [same, parse?_format] at read
  exact (Option.some.inj read).symm

/-- Reading takes the outer blanks off a value and nothing else. -/
theorem parse?_trimmed_format (value : type.Value) :
    ∃ kept, type.parse? (trimmed (type.format value)) = some kept ∧
      type.format kept = trimmed (type.format value) := by
  cases type with
  | unsigned width =>
    have same := trimmed_of_isValue (isValue_toString (Fin.val value))
    refine ⟨value, ?_, same.symm⟩
    rw [show trimmed (format (.unsigned width) value) = format (.unsigned width) value from same,
      parse?_format]
  | bool => exact ⟨value, by cases value <;> decide, by cases value <;> decide⟩
  | text => exact ⟨_, rfl, rfl⟩
  | bounded capacity =>
    -- What was trimmed fits as well, so it is not cut too.
    obtain ⟨text, fits⟩ := value
    have within : (trimmed text).toList <:+: text.toList := by
      rw [trimmed, String.toList_ofList]
      exact (isPrefix_trimEnd _).isInfix.trans (skipBlanks_suffix _).isInfix
    have shorter := (byteLength_le_of_isInfix within).trans fits
    exact ⟨_, congrArg some (BoundedText.truncated_eq_of_fits shorter), rfl⟩

theorem one_line_of_read {written : String} {value fallback : type.Value}
    (oneLine : '\n' ∉ written.toList) (read : (type.parse? written).getD fallback = value) :
    '\n' ∉ (type.format value).toList := by
  cases type with
  | unsigned width => exact (isValue_toString _).one_line
  | bool => cases value <;> decide
  | text => exact read ▸ oneLine
  | bounded capacity =>
    obtain rfl := read
    show '\n' ∉ (String.ofList (truncate capacity written.toList)).toList
    rw [String.toList_ofList]
    exact fun member => oneLine ((isPrefix_truncate capacity written.toList).subset member)

end FieldType

end IniSettings
