import IniSettings.Text.Utf8
import Mathlib.Tactic.IntervalCases

/-!
# Text as bytes and back

Decoding the bytes of a text gives the text. The decoder takes one character at a time, so this
follows from what it does with the bytes of one character, by the number of these.
-/

namespace IniSettings.Text.Utf8

variable {lead bits : Nat} {rest : Bytes}

theorem opening_ascii {value : Nat} (ascii : value < 0x80) :
    opening value = .whole (Char.ofNat value) :=
  if_pos ascii

theorem opening_two (shortest : 2 ≤ lead) (bound : lead < 0x20) :
    opening (0xC0 + lead) = .pending ⟨1, 0x80, 0xBF, lead⟩ := by
  interval_cases lead <;> rfl

theorem opening_three (bound : lead < 0x10) :
    opening (0xE0 + lead) =
      .pending ⟨2, if lead = 0 then 0xA0 else 0x80, if lead = 0xD then 0x9F else 0xBF, lead⟩ := by
  interval_cases lead <;> rfl

theorem opening_four (bound : lead ≤ 4) :
    opening (0xF0 + lead) =
      .pending ⟨3, if lead = 0 then 0x90 else 0x80, if lead = 4 then 0x8F else 0xBF, lead⟩ := by
  interval_cases lead <;> rfl

theorem toNat_byte {byte : Nat} (fits : byte < 0x100) : (UInt8.ofNat byte).toNat = byte :=
  UInt8.toNat_ofNat_of_lt fits

theorem decodeFrom_whole {byte : Nat} {c : Char} (fits : byte < 0x100)
    (opens : opening byte = .whole c) :
    decodeFrom none (UInt8.ofNat byte :: rest) = c :: decodeFrom none rest := by
  rw [decodeFrom, toNat_byte fits, opens]

theorem decodeFrom_pending {byte : Nat} {sequence : Pending} (fits : byte < 0x100)
    (opens : opening byte = .pending sequence) :
    decodeFrom none (UInt8.ofNat byte :: rest) = decodeFrom (some sequence) rest := by
  rw [decodeFrom, toNat_byte fits, opens]

theorem decodeFrom_last {low high value : Nat} (fits : bits < 0x40) (above : low ≤ 0x80 + bits)
    (below : 0x80 + bits ≤ high) :
    decodeFrom (some ⟨1, low, high, value⟩) (UInt8.ofNat (0x80 + bits) :: rest) =
      Char.ofNat (value * 0x40 + bits) :: decodeFrom none rest := by
  rw [decodeFrom, toNat_byte (by omega), if_pos ⟨above, below⟩]
  simp [Pending.extend]

theorem decodeFrom_more {owed low high value : Nat} (fits : bits < 0x40)
    (above : low ≤ 0x80 + bits) (below : 0x80 + bits ≤ high) :
    decodeFrom (some ⟨owed + 2, low, high, value⟩) (UInt8.ofNat (0x80 + bits) :: rest) =
      decodeFrom (some ⟨owed + 1, 0x80, 0xBF, value * 0x40 + bits⟩) rest := by
  rw [decodeFrom, toNat_byte (by omega), if_pos ⟨above, below⟩]
  simp [Pending.extend]

theorem decodeFrom_encodeChar (c : Char) (rest : Bytes) :
    decodeFrom none (encodeChar c ++ rest) = c :: decodeFrom none rest := by
  have scalar : c.toNat < 0xD800 ∨ 0xDFFF < c.toNat ∧ c.toNat < 0x110000 := c.valid
  have again : ∀ value, value = c.toNat → Char.ofNat value = c := fun value same => by
    rw [same, Char.ofNat_toNat]
  unfold encodeChar
  generalize c.toNat = value at scalar again
  by_cases one : value < 0x80
  · simp only [one, if_true, List.cons_append, List.nil_append]
    rw [decodeFrom_whole (by omega) (opening_ascii one), again _ rfl]
  by_cases two : value < 0x800
  · simp only [one, two, if_true, if_false, List.cons_append, List.nil_append]
    rw [decodeFrom_pending (by omega) (opening_two (by omega) (by omega)),
      decodeFrom_last (by omega) (by omega) (by omega), again _ (by omega)]
  by_cases three : value < 0x10000
  · simp only [one, two, three, if_true, if_false, List.cons_append, List.nil_append]
    rw [decodeFrom_pending (by omega) (opening_three (by omega)),
      decodeFrom_more (by omega) (by split <;> omega) (by split <;> omega),
      decodeFrom_last (by omega) (by omega) (by omega), again _ (by omega)]
  · simp only [one, two, three, if_false, List.cons_append, List.nil_append]
    rw [decodeFrom_pending (by omega) (opening_four (by omega)),
      decodeFrom_more (by omega) (by split <;> omega) (by split <;> omega),
      decodeFrom_more (by omega) (by omega) (by omega),
      decodeFrom_last (by omega) (by omega) (by omega), again _ (by omega)]

theorem decodeChars_encodeChars (chars : List Char) : decodeChars (encodeChars chars) = chars := by
  unfold decodeChars encodeChars
  induction chars with
  | nil => rfl
  | cons c rest ih => rw [List.flatMap_cons, decodeFrom_encodeChar, ih]

theorem decode_encode (text : String) : decode (encode text) = text := by
  rw [decode, encode, decodeChars_encodeChars, String.ofList_toList]

end IniSettings.Text.Utf8
