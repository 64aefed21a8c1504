import IniSettings.Field.BoundedText
import Mathlib.Data.List.Basic

/-!
# Cutting a text

What is left of a text that was cut is a beginning of it, and a text that fits is not cut.
-/

namespace IniSettings

theorem byteLength_append (text more : List Char) :
    byteLength (text ++ more) = byteLength text + byteLength more := by
  induction text with
  | nil => simp [byteLength]
  | cons c rest ih => simp [byteLength, ih, Nat.add_assoc]

theorem byteLength_le_of_isInfix {part text : List Char} (within : part <:+: text) :
    byteLength part ≤ byteLength text := by
  obtain ⟨before, after, rfl⟩ := within
  rw [byteLength_append, byteLength_append]
  omega

theorem isPrefix_of_headOfSize? {text head : List Char} {size : Nat}
    (found : headOfSize? text size = some head) : head <+: text := by
  fun_induction headOfSize? text size generalizing head with
  | case1 =>
    obtain rfl := Option.some.inj found
    exact List.nil_prefix
  | case2 => simp at found
  | case3 c rest size _ fits ih =>
    obtain ⟨inner, inside, rfl⟩ := Option.map_eq_some_iff.1 found
    exact List.cons_prefix_cons.2 ⟨rfl, ih inside⟩
  | case4 => simp at found

theorem headOfSize?_byteLength (text : List Char) :
    headOfSize? text (byteLength text) = some text := by
  induction text with
  | nil => rfl
  | cons c rest ih =>
    have positive : byteLength (c :: rest) ≠ 0 := by
      have := Char.utf8Size_pos c
      simp only [byteLength]
      omega
    rw [headOfSize?]
    · simp [byteLength, ih]
    · exact positive

theorem isPrefix_cutBack (text : List Char) (size : Nat) : cutBack text size <+: text := by
  induction size with
  | zero => exact List.nil_prefix
  | succ size ih =>
    rw [cutBack]
    cases found : headOfSize? text (size + 1) with
    | none => exact ih
    | some head => exact isPrefix_of_headOfSize? found

theorem cutBack_byteLength (text : List Char) : cutBack text (byteLength text) = text := by
  cases size : byteLength text with
  | zero =>
    cases text with
    | nil => rfl
    | cons c rest =>
      have := Char.utf8Size_pos c
      simp only [byteLength] at size
      omega
  | succ size' =>
    rw [cutBack, ← size, headOfSize?_byteLength]
    rfl

theorem isPrefix_truncate (capacity : Nat) (text : List Char) : truncate capacity text <+: text :=
  isPrefix_cutBack text _

theorem truncate_eq_self {capacity : Nat} {text : List Char} (fits : byteLength text ≤ capacity) :
    truncate capacity text = text := by
  rw [truncate, Nat.min_eq_left fits, cutBack_byteLength]

theorem BoundedText.truncated_eq_of_fits {capacity : Nat} {text : String}
    (fits : byteLength text.toList ≤ capacity) : truncated text = ⟨text, fits⟩ := by
  have same := truncate_eq_self fits
  rw [truncated, mk.injEq, same, String.ofList_toList]

theorem BoundedText.text_of_ofText? {capacity : Nat} {text : String}
    {value : BoundedText capacity} (found : ofText? text = some value) : value.text = text := by
  unfold ofText? at found
  split at found
  next fits =>
    obtain rfl := Option.some.inj found
    rfl
  next => cases found

end IniSettings
