import IniSettings.Proofs.Field.Type

/-!
# Values that a field takes from outside

A field takes its values from lines of the file and from boxes. A box is opened only if the file
can hold the value. A text that is read is one that the file can hold, but it may be cut to the
capacity of its field, and if it is cut right after a blank the file cannot hold what is left.
-/

namespace IniSettings
open Format Text

theorem Format.isValue_of_isStorable {text : String} (storable : isStorable text = true) :
    IsValue text := by
  rw [isStorable, Bool.and_eq_true, List.all_eq_true] at storable
  refine ⟨fun feed => ?_, storable.2⟩
  have refused := storable.1 '\n' feed
  simp at refused

theorem Text.head?_of_isPrefix {part text : List Char} (begins : part <+: text)
    (start : text.head?.any isBlank = false) : part.head?.any isBlank = false := by
  cases part with
  | nil => rfl
  | cons c rest =>
    obtain ⟨more, rfl⟩ := begins
    exact start

namespace FieldType

variable {type : FieldType} {value : type.Value}

theorem of_unbox_text {text : String} (opened : type.unbox (.text text) = .ok value) :
    isStorable text = true ∧ type.format value = text := by
  cases type with
  | unsigned width => cases opened
  | bool => cases opened
  | text =>
    rw [unbox] at opened
    split at opened
    next storable => exact ⟨storable, (Except.ok.inj opened).symm⟩
    next => cases opened
  | bounded capacity =>
    rw [unbox] at opened
    split at opened
    next storable =>
      split at opened
      next fitting found =>
        obtain rfl := Except.ok.inj opened
        exact ⟨storable, BoundedText.text_of_ofText? found⟩
      next => cases opened
    next => cases opened

theorem holdable_of_unbox {boxed : BoxedValue} (opened : type.unbox boxed = .ok value) :
    type.Holdable value := by
  cases boxed with
  | text text =>
    obtain ⟨storable, same⟩ := of_unbox_text opened
    exact isValue_format_iff.1 (same ▸ isValue_of_isStorable storable)
  | bool given =>
    cases type with
    | bool => trivial
    | _ => cases opened
  | unsigned given =>
    cases type with
    | unsigned width => trivial
    | _ => cases opened

def Loadable (type : FieldType) (value : type.Value) : Prop :=
  ∃ written, IsValue written ∧ type.parse? written = some value

/-- What is left of a text that was cut right after a blank. -/
def EndsInBlank : (type : FieldType) → type.Value → Prop
  | .bounded _, value => (BoundedText.text value).toList.getLast?.any isBlank = true
  | _, _ => False

theorem Holdable.loadable (holdable : type.Holdable value) : type.Loadable value :=
  ⟨type.format value, isValue_format_iff.2 holdable, parse?_format value⟩

theorem Loadable.one_line (loadable : type.Loadable value) :
    '\n' ∉ (type.format value).toList := by
  obtain ⟨written, isValue, read⟩ := loadable
  have same : (type.parse? written).getD value = value := by rw [read, Option.getD_some]
  exact one_line_of_read isValue.one_line same

theorem Loadable.no_blank_start (loadable : type.Loadable value) :
    (type.format value).toList.head?.any isBlank = false := by
  cases type with
  | bounded capacity =>
    obtain ⟨written, isValue, read⟩ := loadable
    obtain rfl := Option.some.inj read
    have start := (isTrimmed_iff.1 isValue.trimmed).1
    show (String.ofList (truncate capacity written.toList)).toList.head?.any isBlank = false
    rw [String.toList_ofList]
    exact head?_of_isPrefix (isPrefix_truncate capacity written.toList) start
  | text =>
    obtain ⟨written, isValue, read⟩ := loadable
    obtain rfl := Option.some.inj read
    exact (isTrimmed_iff.1 isValue.trimmed).1
  | unsigned width => exact (isTrimmed_iff.1 (isValue_toString _).trimmed).1
  | bool => cases value <;> decide

/-- Only a cut right after a blank keeps a value that was read from being written again. -/
theorem Loadable.holdable_iff (loadable : type.Loadable value) :
    type.Holdable value ↔ ¬ type.EndsInBlank value := by
  have oneLine := loadable.one_line
  have start := loadable.no_blank_start
  cases type with
  | unsigned width => exact iff_of_true trivial id
  | bool => exact iff_of_true trivial id
  | text =>
    obtain ⟨written, isValue, read⟩ := loadable
    obtain rfl := Option.some.inj read
    exact iff_of_true isValue id
  | bounded capacity =>
    constructor
    · intro holdable ends
      have stop := (isTrimmed_iff.1 holdable.trimmed).2
      exact Bool.false_ne_true (stop.symm.trans ends)
    · intro whole
      exact ⟨oneLine, isTrimmed_iff.2 ⟨start, Bool.not_eq_true _ ▸ whole⟩⟩

structure Taken (type : FieldType) (cut : Prop) (value : type.Value) : Prop where
  loadable : type.Loadable value
  whole : ¬ cut → ¬ type.EndsInBlank value

theorem Taken.imp {cut later : Prop} (taken : type.Taken cut value) (weaken : cut → later) :
    type.Taken later value :=
  ⟨taken.loadable, fun uncut => taken.whole fun cuts => uncut (weaken cuts)⟩

theorem Holdable.taken {cut : Prop} (holdable : type.Holdable value) : type.Taken cut value :=
  ⟨holdable.loadable, fun _ => holdable.loadable.holdable_iff.1 holdable⟩

end FieldType

end IniSettings
