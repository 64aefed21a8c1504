import IniSettings.Proofs.Field.Boxing
import IniSettings.Proofs.Field.Type
import IniSettings.Proofs.Text.Places

/-!
# Numbers in the file

A field of a width reads a text exactly if it consists of digits, whatever zeros it begins with, and
if the number is one of the width. Printing what was read takes those zeros off that do not count,
and a box is opened exactly if the digits of its number are read.
-/

namespace IniSettings
open Text

namespace Text.Decimal

theorem digit_bytes_iff (c : Char) :
    (∀ byte ∈ Utf8.encodeChar c, '0'.toNat ≤ byte.toNat ∧ byte.toNat ≤ '9'.toNat) ↔
      '0' ≤ c ∧ c ≤ '9' := by
  by_cases small : c.toNat < 0x80
  · rw [Utf8.encodeChar_ascii small, List.forall_mem_singleton,
      Utf8.toNat_byte (small.trans (by decide))]
    rfl
  · -- The bytes of a character that is not ASCII are all beyond those of the digits.
    obtain ⟨lead, tail, bytes, large, -⟩ := Utf8.encodeChar_large (Nat.le_of_not_lt small)
    apply iff_of_false
    · intro all
      have low : lead.toNat ≤ 57 := (all lead (by simp [bytes])).2
      omega
    · intro digit
      have low : c.toNat ≤ 57 := digit.2
      omega

theorem digits_encode_iff (text : String) :
    (∀ byte ∈ Utf8.encode text, '0'.toNat ≤ byte.toNat ∧ byte.toNat ≤ '9'.toNat) ↔
      ∀ c ∈ text.toList, '0' ≤ c ∧ c ≤ '9' := by
  simp only [← digit_bytes_iff, Utf8.encode, Utf8.encodeChars, List.mem_flatMap,
    forall_exists_index, and_imp]
  constructor
  · intro all c member byte inside
    exact all byte c member inside
  · intro all byte c member inside
    exact all c member byte inside

end Text.Decimal

namespace FieldType

variable {width : Width} {text : String}

/-- What the file holds for a text after the value that was read from it is written back. -/
def rewritten? (type : FieldType) (text : String) : Option String :=
  (type.parse? text).map type.format

theorem rewritten?_bind (type : FieldType) (text : String) :
    (type.rewritten? text).bind type.rewritten? = type.rewritten? text := by
  unfold rewritten?
  cases type.parse? text with
  | none => rfl
  | some value => exact congrArg (Option.map type.format) (parse?_format value)

theorem parse?_unsigned_iff {value : Fin width.limit} :
    (unsigned width).parse? text = some value ↔ Decimal.Denotes text.toList value.val :=
  Decimal.parseBelow?_eq_some_iff

theorem parse?_unsigned_accepts_iff :
    (∃ value, (unsigned width).parse? text = some value) ↔
      text ≠ "" ∧ (∀ c ∈ text.toList, '0' ≤ c ∧ c ≤ '9') ∧
        Nat.ofDigitChars 10 text.toList 0 < width.limit := by
  constructor
  · rintro ⟨value, parsed⟩
    obtain ⟨nonempty, digits, same⟩ := parse?_unsigned_iff.1 parsed
    refine ⟨by simpa using nonempty, digits, ?_⟩
    rw [same]
    exact Fin.isLt value
  · rintro ⟨nonempty, digits, fits⟩
    exact ⟨Fin.mk _ fits, parse?_unsigned_iff.2 ⟨by simpa using nonempty, digits, rfl⟩⟩

theorem rewritten?_unsigned :
    (unsigned width).rewritten? text =
      ((unsigned width).parse? text).map fun _ =>
        String.ofList (Decimal.shortest text.toList) := by
  rw [rewritten?]
  cases parsed : (unsigned width).parse? text with
  | none => rfl
  | some value =>
    obtain ⟨nonempty, digits, same⟩ := parse?_unsigned_iff.1 parsed
    rw [Option.map_some, Option.map_some, Option.some_inj, ← String.toList_inj,
      String.toList_ofList, ← Decimal.toDigits_ofDigitChars nonempty digits, same]
    exact Decimal.toList_toString _

theorem unbox_unsigned_iff {boxed : UInt64} {value : Fin width.limit} :
    (unsigned width).unbox (.unsigned boxed) = .ok value ↔ boxed.toNat = value.val := by
  rw [unbox]
  constructor
  · intro opened
    split at opened
    next => exact congrArg Fin.val (Except.ok.inj opened)
    next => cases opened
  · intro same
    have fits : boxed.toNat < width.limit := same ▸ value.isLt
    rw [dif_pos fits]
    exact congrArg Except.ok (Fin.ext same)

theorem unbox_unsigned_accepts_iff {boxed : UInt64} :
    (∃ value, (unsigned width).unbox (.unsigned boxed) = .ok value) ↔
      boxed.toNat < width.limit := by
  constructor
  · rintro ⟨value, opened⟩
    rw [unbox_unsigned_iff.1 opened]
    exact Fin.isLt value
  · intro fits
    exact ⟨Fin.mk _ fits, unbox_unsigned_iff.2 rfl⟩

theorem unbox_unsigned_eq (width : Width) (boxed : UInt64) :
    (unsigned width).unbox (.unsigned boxed) =
      ((unsigned width).parse? (toString boxed.toNat)).elim (.error .outOfRange) .ok := by
  cases parsed : (unsigned width).parse? (toString boxed.toNat) with
  | some value =>
    have same := (parse?_unsigned_iff.1 parsed).value
    rw [Decimal.toList_toString, Nat.ofDigitChars_ten_toDigits] at same
    exact unbox_unsigned_iff.2 same
  | none =>
    have large : ¬ boxed.toNat < width.limit := by
      intro fits
      have read : (unsigned width).parse? (toString boxed.toNat) = some (Fin.mk _ fits) :=
        Decimal.parseBelow?_toString (Fin.mk _ fits)
      rw [read] at parsed
      cases parsed
    rw [unbox, dif_neg large]
    rfl

theorem decimal_exact (width : Width) :
    let type := unsigned width
    (∀ text, (∃ value, type.parse? text = some value) ↔
      text ≠ "" ∧ (∀ byte ∈ Utf8.encode text, '0'.toNat ≤ byte.toNat ∧ byte.toNat ≤ '9'.toNat) ∧
        Nat.ofDigitChars 10 text.toList 0 < 2 ^ width.bits) ∧
    (∀ text (value : Fin width.limit),
      type.parse? text = some value ↔ Decimal.Denotes text.toList value.val) ∧
    (∀ n (fits : n < 2 ^ width.bits),
      let value : type.Value := (Fin.mk n fits : Fin width.limit)
      type.format value = toString n ∧ type.parse? (type.format value) = some value) ∧
    (∀ text, type.rewritten? text =
      (type.parse? text).map fun _ => String.ofList (Decimal.shortest text.toList)) ∧
    (∀ text, (type.rewritten? text).bind type.rewritten? = type.rewritten? text) ∧
    (∀ boxed : UInt64,
      (∃ value, type.unbox (.unsigned boxed) = .ok value) ↔ boxed.toNat < 2 ^ width.bits) ∧
    ∀ boxed : UInt64,
      type.unbox (.unsigned boxed) =
        (type.parse? (toString boxed.toNat)).elim (.error .outOfRange) .ok := by
  intro type
  refine ⟨?accepts, fun text value => parse?_unsigned_iff, ?printed,
    fun text => rewritten?_unsigned, rewritten?_bind type, fun boxed => unbox_unsigned_accepts_iff,
    unbox_unsigned_eq width⟩
  case accepts =>
    intro text
    rw [Decimal.digits_encode_iff]
    exact parse?_unsigned_accepts_iff
  case printed =>
    intro n fits value
    exact ⟨rfl, parse?_format value⟩

example :
    (unsigned .bits8).rewritten? "00000255" = some "255" ∧
      (unsigned .bits8).rewritten? "000" = some "0" ∧
      (unsigned .bits8).rewritten? "256" = none ∧
      (unsigned .bits8).rewritten? "+1" = none := by
  decide +kernel

end FieldType

end IniSettings
