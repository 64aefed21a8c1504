import IniSettings.Proofs.Field.BoundedText
import IniSettings.Proofs.Text.Places

/-!
# Where characters end

A character has between one and four bytes, and each of them but the first shows that it continues
something. So the places of a text between two characters are the ends of its beginnings.
-/

namespace IniSettings.Text.Utf8

theorem isContinuation_byte {bits : Nat} (fits : bits < 0x40) :
    isContinuation (UInt8.ofNat (0x80 + bits)) = true := by
  rw [isContinuation, toNat_byte (by omega), Bool.and_eq_true, decide_eq_true_eq,
    decide_eq_true_eq]
  omega

theorem isContinuation_of_mem_tail {c : Char} {lead byte : UInt8} {tail : Bytes}
    (bytes : encodeChar c = lead :: tail) (member : byte ∈ tail) : isContinuation byte = true := by
  have further (bits : Nat) : isContinuation (UInt8.ofNat (0x80 + bits % 0x40)) = true :=
    isContinuation_byte (Nat.mod_lt bits (by decide))
  unfold encodeChar at bytes
  dsimp only at bytes
  split at bytes
  next one =>
    obtain ⟨-, rfl⟩ := List.cons.inj bytes
    cases member
  next =>
    split at bytes
    next two =>
      obtain ⟨-, rfl⟩ := List.cons.inj bytes
      obtain rfl := List.mem_singleton.1 member
      exact further _
    next =>
      split at bytes
      next three =>
        obtain ⟨-, rfl⟩ := List.cons.inj bytes
        simp only [List.mem_cons, List.not_mem_nil, or_false] at member
        rcases member with rfl | rfl <;> exact further _
      next =>
        obtain ⟨-, rfl⟩ := List.cons.inj bytes
        simp only [List.mem_cons, List.not_mem_nil, or_false] at member
        rcases member with rfl | rfl | rfl <;> exact further _

theorem length_encodeChar (c : Char) : (encodeChar c).length = c.utf8Size := by
  have below (bound : Nat) (limit : UInt32) (same : limit.toNat + 1 = bound) :
      c.toNat < bound ↔ c.val ≤ limit := by
    rw [UInt32.le_iff_toNat_le, ← same]
    exact Nat.lt_succ_iff
  unfold encodeChar
  simp only [below 0x80 0x7F rfl, below 0x800 0x7FF rfl, below 0x10000 0xFFFF rfl]
  show _ = if c.val ≤ 0x7F then 1 else if c.val ≤ 0x7FF then 2 else if c.val ≤ 0xFFFF then 3 else 4
  repeat' split
  all_goals rfl

theorem length_encodeChars (text : List Char) : (encodeChars text).length = byteLength text := by
  induction text with
  | nil => rfl
  | cons c rest ih => rw [encodeChars_cons, List.length_append, length_encodeChar, ih, byteLength]

theorem standsBefore_append (head rest : List Char) :
    StandsBefore (head ++ rest) rest (byteLength head) := by
  have stands := (StandsBefore.whole (head ++ rest)).after
  rwa [Nat.zero_add, width, length_encodeChars] at stands

/-- Every place within a text lies at the end of some beginning of it, or inside of the character
that comes next. -/
theorem exists_head {text : List Char} {place : Nat} (within : place ≤ byteLength text) :
    ∃ head rest, text = head ++ rest ∧ (place = byteLength head ∨
      ∃ c more offset, rest = c :: more ∧ place = byteLength head + (offset + 1) ∧
        offset + 1 < c.utf8Size) := by
  induction text generalizing place with
  | nil => exact ⟨[], [], rfl, .inl (Nat.le_zero.1 within)⟩
  | cons c rest ih =>
    rw [byteLength] at within
    by_cases inside : place < c.utf8Size
    · cases place with
      | zero => exact ⟨[], c :: rest, rfl, .inl rfl⟩
      | succ offset =>
        exact ⟨[], c :: rest, rfl, .inr ⟨c, rest, offset, rfl, (Nat.zero_add _).symm, inside⟩⟩
    · have beyond : place - c.utf8Size ≤ byteLength rest := by omega
      obtain ⟨head, more, split, stands⟩ := ih beyond
      refine ⟨c :: head, more, congrArg (c :: ·) split, ?_⟩
      rw [byteLength]
      rcases stands with ends | ⟨next, more, offset, split, reached, inner⟩
      · exact .inl (by omega)
      · exact .inr ⟨next, more, offset, split, by omega, inner⟩

theorem not_isBoundary_inside {head more : List Char} {c : Char} {offset : Nat}
    (inside : offset + 1 < c.utf8Size) :
    isBoundary (encodeChars (head ++ c :: more)) (byteLength head + (offset + 1)) = false := by
  obtain ⟨lead, tail, bytes, -⟩ := exists_lead c
  have room : offset < tail.length := by
    rw [← length_encodeChar, bytes, List.length_cons] at inside
    omega
  have there : (encodeChars (head ++ c :: more))[byteLength head + (offset + 1)]? =
      some tail[offset] := by
    rw [(standsBefore_append head (c :: more)).getElem?_add, encodeChars_cons, bytes,
      List.cons_append, List.getElem?_cons_succ, List.getElem?_append_left room,
      List.getElem?_eq_getElem room]
  rw [isBoundary, there]
  have continues := isContinuation_of_mem_tail bytes (List.getElem_mem room)
  simp [continues]

theorem isBoundary_iff {text : List Char} {place : Nat} :
    isBoundary (encodeChars text) place = true ↔
      ∃ head, head <+: text ∧ byteLength head = place := by
  constructor
  · intro boundary
    by_cases within : place ≤ byteLength text
    · obtain ⟨head, rest, rfl, rfl | ⟨c, more, offset, rfl, rfl, inside⟩⟩ := exists_head within
      · exact ⟨head, List.prefix_append head rest, rfl⟩
      · rw [not_isBoundary_inside inside] at boundary
        cases boundary
    · -- Beyond the end there is neither a byte nor the end.
      have outside : (encodeChars text).length < place := by
        rw [length_encodeChars]
        exact Nat.lt_of_not_le within
      rw [isBoundary, List.getElem?_eq_none (Nat.le_of_lt outside)] at boundary
      have same : place = (encodeChars text).length := by simpa using boundary
      exact absurd same (Nat.ne_of_gt outside)
  · rintro ⟨head, ⟨rest, rfl⟩, rfl⟩
    exact (standsBefore_append head rest).isBoundary

theorem slice_isPrefix {head text : List Char} (begins : head <+: text) :
    slice (encodeChars text) 0 (byteLength head) = .ok (String.ofList head) := by
  obtain ⟨rest, rfl⟩ := begins
  exact (StandsBefore.whole (head ++ rest)).slice_eq (standsBefore_append head rest)

theorem take_encodeChars {head text : List Char} (begins : head <+: text) :
    (encodeChars text).take (byteLength head) = encodeChars head := by
  obtain ⟨rest, rfl⟩ := begins
  rw [encodeChars_append]
  exact List.take_left' (length_encodeChars head)

end IniSettings.Text.Utf8
