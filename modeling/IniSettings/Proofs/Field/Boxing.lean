import IniSettings.Field.Type
import IniSettings.Proofs.Field.BoundedText
import IniSettings.Proofs.Text.Blank
import Mathlib.Algebra.Group.Nat.Defs

/-!
# Boxes that are opened

Opening a box gives the one value that is boxed like that. It fails if the box is of another kind
than the type, and if it is of that kind but the type has no such value or the file cannot hold it.
-/

namespace IniSettings
open Text

def Text.Unstorable (text : String) : Prop :=
  '\n' ∈ text.toList ∨ '\r' ∈ text.toList ∨ text.toList.head?.any isBlank = true ∨
    text.toList.getLast?.any isBlank = true

theorem Text.isStorable_iff {text : String} : isStorable text = true ↔ ¬ Unstorable text := by
  simp only [isStorable, Bool.and_eq_true, List.all_eq_true, bne_iff_ne, isTrimmed_iff, Unstorable,
    not_or, Bool.not_eq_true]
  constructor
  · rintro ⟨solid, start, stop⟩
    exact ⟨fun feed => (solid _ feed).1 rfl, fun back => (solid _ back).2 rfl, start, stop⟩
  · rintro ⟨noFeed, noReturn, start, stop⟩
    exact ⟨fun c member => ⟨fun feed => noFeed (feed ▸ member), fun back => noReturn (back ▸ member)⟩,
      start, stop⟩

namespace FieldType

def kind : FieldType → BoxedValue.Kind
  | .unsigned _ => .unsigned
  | .bool => .bool
  | .text => .text
  | .bounded _ => .text

def Exceeded : FieldType → BoxedValue → Prop
  | .unsigned width, .unsigned value => 2 ^ width.bits ≤ value.toNat
  | .text, .text given => Unstorable given
  | .bounded capacity, .text given => capacity < byteLength given.toList ∨ Unstorable given
  | _, _ => False

/-- All that can come of opening a box. -/
inductive Opening (type : FieldType) (boxed : BoxedValue) :
    Except UnboxError type.Value → Prop where
  | mismatch (other : boxed.kind ≠ type.kind) : Opening type boxed (.error .typeMismatch)
  | exceeded (kind : boxed.kind = type.kind) (exceeded : type.Exceeded boxed) :
      Opening type boxed (.error .outOfRange)
  | opened {value : type.Value} (kind : boxed.kind = type.kind) (fits : ¬ type.Exceeded boxed)
      (same : type.box value = boxed) : Opening type boxed (.ok value)

theorem opening_unsigned (width : Width) (value : UInt64) :
    Opening (.unsigned width) (.unsigned value) (unbox (.unsigned width) (.unsigned value)) := by
  rw [unbox]
  split
  next fits =>
    refine .opened rfl (Nat.not_le_of_lt fits) ?_
    exact congrArg BoxedValue.unsigned UInt64.ofNat_toNat
  next exceeds => exact .exceeded rfl (Nat.le_of_not_lt exceeds)

theorem opening_text (text : String) :
    Opening .text (.text text) (unbox .text (.text text)) := by
  rw [unbox]
  split
  next storable => exact .opened rfl (isStorable_iff.1 storable) rfl
  next unstorable =>
    rw [isStorable_iff, not_not] at unstorable
    exact .exceeded rfl unstorable

theorem opening_bounded (capacity : Nat) (text : String) :
    Opening (.bounded capacity) (.text text) (unbox (.bounded capacity) (.text text)) := by
  rw [unbox]
  split
  next storable =>
    rw [isStorable_iff] at storable
    by_cases fits : byteLength text.toList ≤ capacity
    · simp only [BoundedText.ofText?, dif_pos fits]
      refine .opened rfl ?_ rfl
      exact fun exceeds => exceeds.elim (Nat.not_lt_of_le fits) storable
    · simp only [BoundedText.ofText?, dif_neg fits]
      exact .exceeded rfl (.inl (Nat.lt_of_not_le fits))
  next unstorable =>
    rw [isStorable_iff, not_not] at unstorable
    exact .exceeded rfl (.inr unstorable)

theorem opening (type : FieldType) (boxed : BoxedValue) :
    type.Opening boxed (type.unbox boxed) := by
  cases type with
  | unsigned width =>
    cases boxed with
    | unsigned value => exact opening_unsigned width value
    | _ => exact .mismatch nofun
  | bool =>
    cases boxed with
    | bool value => exact .opened rfl id rfl
    | _ => exact .mismatch nofun
  | text =>
    cases boxed with
    | text given => exact opening_text given
    | _ => exact .mismatch nofun
  | bounded capacity =>
    cases boxed with
    | text given => exact opening_bounded capacity given
    | _ => exact .mismatch nofun

theorem limit_le (width : Width) : width.limit ≤ UInt64.size := by
  cases width <;> decide

theorem box_injective {type : FieldType} {value other : type.Value}
    (same : type.box value = type.box other) : value = other := by
  cases type with
  | unsigned width =>
    have words := congrArg UInt64.toNat (BoxedValue.unsigned.inj same)
    rw [UInt64.toNat_ofNat_of_lt' (Nat.lt_of_lt_of_le (Fin.isLt value) (limit_le width)),
      UInt64.toNat_ofNat_of_lt' (Nat.lt_of_lt_of_le (Fin.isLt other) (limit_le width))] at words
    exact Fin.ext words
  | bool => exact BoxedValue.bool.inj same
  | text => exact BoxedValue.text.inj same
  | bounded capacity =>
    have texts := BoxedValue.text.inj same
    obtain ⟨text, fits⟩ := value
    obtain ⟨more, bound⟩ := other
    obtain rfl : text = more := texts
    rfl

end FieldType

end IniSettings
