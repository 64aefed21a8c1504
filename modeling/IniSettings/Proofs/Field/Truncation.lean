import IniSettings.Field.ByteCut
import IniSettings.Field.Type
import IniSettings.Proofs.Text.Boundary

/-!
# The longest beginning that fits

A text that is too long is cut at the last place between two characters that the capacity admits.
That place is at most three bytes before the capacity, whatever the characters are, and there always
is one, if only the beginning of the text.
-/

namespace IniSettings
open Text

theorem headOfSize?_eq_some_iff {text head : List Char} {size : Nat} :
    headOfSize? text size = some head ↔ head <+: text ∧ byteLength head = size := by
  constructor
  · intro found
    exact ⟨isPrefix_of_headOfSize? found, byteLength_headOfSize? found⟩
  · rintro ⟨⟨rest, rfl⟩, rfl⟩
    induction head with
    | nil => rw [byteLength, headOfSize?]
    | cons c head ih =>
      have positive := Char.utf8Size_pos c
      rw [List.cons_append, headOfSize?, if_pos, byteLength, Nat.add_sub_cancel_left, ih]
      · rfl
      · exact Nat.le_add_right _ _
      · rw [byteLength]
        omega

theorem isSome_headOfSize? (text : List Char) (size : Nat) :
    (headOfSize? text size).isSome = Utf8.isBoundary (Utf8.encodeChars text) size := by
  rw [Bool.eq_iff_iff, Option.isSome_iff_exists, Utf8.isBoundary_iff]
  simp only [headOfSize?_eq_some_iff]

theorem byteLength_le_cutBack {text head : List Char} (begins : head <+: text) {size : Nat}
    (fits : byteLength head ≤ size) : byteLength head ≤ byteLength (cutBack text size) := by
  induction size with
  | zero => exact fits.trans (Nat.zero_le _)
  | succ size ih =>
    rw [cutBack]
    cases found : headOfSize? text (size + 1) with
    | some cut =>
      rw [Option.getD_some, byteLength_headOfSize? found]
      exact fits
    | none =>
      have apart : byteLength head ≠ size + 1 := by
        intro same
        rw [headOfSize?_eq_some_iff.2 ⟨begins, same⟩] at found
        cases found
      exact ih (by omega)

theorem le_byteLength_cutBack {text : List Char} {size : Nat} (within : size ≤ byteLength text) :
    size ≤ byteLength (cutBack text size) + 3 := by
  obtain ⟨head, rest, rfl, ends⟩ := Utf8.exists_head within
  have begins := List.prefix_append head rest
  rcases ends with rfl | ⟨c, more, offset, -, rfl, inside⟩
  · exact (byteLength_le_cutBack begins le_rfl).trans (Nat.le_add_right _ _)
  · -- The place lies inside of a character, and at most three of its bytes are before it.
    have reached := byteLength_le_cutBack begins (Nat.le_add_right _ (offset + 1))
    have four := Char.utf8Size_le_four c
    omega

theorem truncate_eq_self_iff {capacity : Nat} {text : List Char} :
    truncate capacity text = text ↔ byteLength text ≤ capacity := by
  constructor
  · intro same
    rw [← same]
    exact byteLength_truncate_le capacity text
  · exact truncate_eq_self

theorem Text.Utf8.stepBack?_eq (text : List Char) (size : Nat) :
    stepBack? (encodeChars text) size = some (byteLength (cutBack text size)) := by
  induction size with
  | zero =>
    rw [stepBack?, if_pos (StandsBefore.whole text).isBoundary]
    rfl
  | succ size ih =>
    rw [stepBack?, ← isSome_headOfSize?, cutBack]
    cases found : headOfSize? text (size + 1) with
    | none => exact ih
    | some head =>
      rw [if_pos (Option.isSome_some), Option.getD_some, byteLength_headOfSize? found]

namespace BoundedText

variable {capacity : Nat}

theorem length_encode (value : BoundedText capacity) :
    (Utf8.encode value.text).length ≤ capacity := by
  rw [Utf8.encode, Utf8.length_encodeChars]
  exact value.fits

theorem toList_truncated (text : String) :
    (truncated text : BoundedText capacity).text.toList = truncate capacity text.toList :=
  String.toList_ofList

theorem length_encode_truncated (text : String) :
    (Utf8.encode (truncated text : BoundedText capacity).text).length =
      byteLength (truncate capacity text.toList) := by
  rw [Utf8.encode, Utf8.length_encodeChars, toList_truncated]

theorem ofText?_eq (text : String) :
    ofText? text = if (Utf8.encode text).length ≤ capacity then
      some (truncated text : BoundedText capacity) else none := by
  rw [ofText?, Utf8.encode, Utf8.length_encodeChars]
  by_cases fits : byteLength text.toList ≤ capacity
  · rw [dif_pos fits, if_pos fits]
    exact congrArg some (truncated_eq_of_fits fits).symm
  · rw [dif_neg fits, if_neg fits]

theorem unbox_text_eq (text : String) :
    (FieldType.bounded capacity).unbox (.text text) =
      if isStorable text ∧ (Utf8.encode text).length ≤ capacity then
        .ok (truncated text : BoundedText capacity) else .error .outOfRange := by
  rw [FieldType.unbox, ofText?_eq]
  by_cases storable : isStorable text
  · by_cases fits : (Utf8.encode text).length ≤ capacity
    · rw [if_pos storable, if_pos fits, if_pos ⟨storable, fits⟩]
    · rw [if_pos storable, if_neg fits, if_neg fun both => fits both.2]
  · rw [if_neg storable, if_neg fun both => storable both.1]

theorem truncated_exact (capacity : Nat) (text : String) :
    let bytes := Utf8.encode text
    let start := min bytes.length capacity
    let kept : BoundedText capacity := truncated text
    (∃ stop, Utf8.stepBack? bytes start = some stop ∧ start ≤ stop + 3 ∧
      Utf8.slice bytes 0 stop = .ok kept.text ∧ Utf8.encode kept.text = bytes.take stop ∧
      (Utf8.encode kept.text).length = stop) ∧
    kept.text.toList <+: text.toList ∧
    (Utf8.encode kept.text).length ≤ capacity ∧
    (∀ place ≤ capacity, Utf8.isBoundary bytes place = true →
      place ≤ (Utf8.encode kept.text).length) ∧
    (kept.text = text ↔ bytes.length ≤ capacity) ∧
    ofText? text = (if bytes.length ≤ capacity then some kept else none) ∧
    truncated kept.text = kept ∧
    (FieldType.bounded capacity).parse? text = some kept ∧
    (FieldType.bounded capacity).unbox (.text text) =
      (if isStorable text ∧ bytes.length ≤ capacity then .ok kept else .error .outOfRange) ∧
    (empty : BoundedText capacity).text = "" ∧
    ∀ value : BoundedText capacity, (Utf8.encode value.text).length ≤ capacity := by
  intro bytes start kept
  have size : bytes.length = byteLength text.toList := Utf8.length_encodeChars text.toList
  have chars : kept.text.toList = truncate capacity text.toList := toList_truncated text
  have length : (Utf8.encode kept.text).length = byteLength (truncate capacity text.toList) :=
    length_encode_truncated text
  have begins : truncate capacity text.toList <+: text.toList := isPrefix_truncate _ _
  refine ⟨⟨byteLength (truncate capacity text.toList), ?found, ?near, Utf8.slice_isPrefix begins,
    ?bytes, length⟩, ?begins, length_encode kept, ?longest, ?unchanged, ofText?_eq text,
    truncated_eq_of_fits kept.fits, rfl, unbox_text_eq text, rfl, length_encode⟩
  case found =>
    show Utf8.stepBack? bytes (min bytes.length capacity) = _
    rw [size]
    exact Utf8.stepBack?_eq text.toList _
  case near =>
    show min bytes.length capacity ≤ _
    rw [size]
    exact le_byteLength_cutBack (Nat.min_le_left _ _)
  case bytes =>
    rw [Utf8.encode, chars]
    exact (Utf8.take_encodeChars begins).symm
  case begins =>
    rw [chars]
    exact begins
  case longest =>
    intro place fits boundary
    obtain ⟨head, begins, rfl⟩ := Utf8.isBoundary_iff.1 boundary
    have within : byteLength head ≤ byteLength text.toList :=
      byteLength_le_of_isInfix begins.isInfix
    rw [length]
    exact byteLength_le_cutBack begins (le_min within fits)
  case unchanged =>
    rw [← String.toList_inj, chars, truncate_eq_self_iff, size]

end BoundedText

end IniSettings
