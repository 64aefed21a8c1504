import IniSettings.Document.ByteScanner
import IniSettings.Proofs.Text.Blank
import IniSettings.Proofs.Text.Utf8

/-!
# Places between characters

The marks of the format are ASCII, and no byte of another character looks like one of them. So a
cursor that begins between two characters of a text and looks for marks stands between two
characters again, and what lies between two of its places can be cut out.
-/

namespace IniSettings.Text.Utf8

/-! ## The bytes of a character -/

theorem encodeChar_ascii {c : Char} (ascii : c.toNat < 0x80) :
    encodeChar c = [UInt8.ofNat c.toNat] :=
  if_pos ascii

theorem le_toNat_byte {base extra : Nat} (fits : base + extra < 0x100) :
    base ≤ (UInt8.ofNat (base + extra)).toNat := by
  rw [toNat_byte fits]
  exact Nat.le_add_right base extra

theorem encodeChar_large {c : Char} (large : 0x80 ≤ c.toNat) :
    ∃ lead tail, encodeChar c = lead :: tail ∧ 0xC0 ≤ lead.toNat ∧
      ∀ byte ∈ tail, 0x80 ≤ byte.toNat := by
  have scalar : c.toNat < 0xD800 ∨ 0xDFFF < c.toNat ∧ c.toNat < 0x110000 := c.valid
  unfold encodeChar
  generalize c.toNat = value at large scalar
  have further (bits : Nat) : 0x80 ≤ (UInt8.ofNat (0x80 + bits % 0x40)).toNat :=
    le_toNat_byte (by omega)
  rw [if_neg (Nat.not_lt_of_le large)]
  split
  next two => exact ⟨_, _, rfl, le_toNat_byte (by omega), List.forall_mem_singleton.2 (further _)⟩
  next =>
    split
    next three =>
      have lead : 0xE0 ≤ (UInt8.ofNat (0xE0 + value / 0x1000)).toNat := le_toNat_byte (by omega)
      exact ⟨_, _, rfl, (by decide : 0xC0 ≤ 0xE0).trans lead,
        List.forall_mem_cons.2 ⟨further _, List.forall_mem_singleton.2 (further _)⟩⟩
    next =>
      have lead : 0xF0 ≤ (UInt8.ofNat (0xF0 + value / 0x40000)).toNat := le_toNat_byte (by omega)
      exact ⟨_, _, rfl, (by decide : 0xC0 ≤ 0xF0).trans lead,
        List.forall_mem_cons.2
          ⟨further _, List.forall_mem_cons.2 ⟨further _, List.forall_mem_singleton.2 (further _)⟩⟩⟩

theorem exists_lead (c : Char) :
    ∃ lead tail, encodeChar c = lead :: tail ∧ isContinuation lead = false := by
  by_cases small : c.toNat < 0x80
  · refine ⟨_, [], encodeChar_ascii small, ?_⟩
    simp [isContinuation, toNat_byte (small.trans (by decide)), small]
  · obtain ⟨lead, tail, bytes, large, -⟩ := encodeChar_large (Nat.le_of_not_lt small)
    exact ⟨lead, tail, bytes, by simp [isContinuation, large]⟩

theorem exists_last (c : Char) : ∃ initial last, encodeChar c = initial ++ [last] := by
  obtain ⟨lead, tail, bytes, -⟩ := exists_lead c
  rcases List.eq_nil_or_concat' (encodeChar c) with blank | ⟨initial, last, whole⟩
  · rw [bytes] at blank
    cases blank
  · exact ⟨initial, last, whole⟩

theorem isMark_of_mem {mark c : Char} {byte : UInt8} (ascii : mark.toNat < 0x80)
    (member : byte ∈ encodeChar c) : isMark mark byte = (c == mark) := by
  rw [isMark, Bool.eq_iff_iff, beq_iff_eq, beq_iff_eq, ← Char.toNat_inj]
  by_cases small : c.toNat < 0x80
  · rw [encodeChar_ascii small, List.mem_singleton] at member
    rw [member, toNat_byte (small.trans (by decide))]
  · obtain ⟨lead, tail, bytes, large, continued⟩ := encodeChar_large (Nat.le_of_not_lt small)
    have : 0x80 ≤ byte.toNat := by
      rw [bytes] at member
      rcases List.mem_cons.1 member with rfl | later
      · exact (Nat.le_of_lt (by decide)).trans large
      · exact continued byte later
    omega

theorem ascii_of_blank {c : Char} (blank : isBlank c = true) : c.toNat < 0x80 := by
  simp only [isBlank, Bool.or_eq_true, beq_iff_eq] at blank
  obtain (rfl | rfl) | rfl := blank <;> decide

theorem isBlankByte_of_mem {c : Char} {byte : UInt8} (member : byte ∈ encodeChar c) :
    isBlankByte byte = isBlank c := by
  have mark (blank : Char) (ascii : blank.toNat < 0x80) := isMark_of_mem ascii member
  rw [isBlankByte, isBlank, mark ' ' (by decide), mark '\t' (by decide), mark '\r' (by decide)]

@[simp] theorem encodeChars_nil : encodeChars [] = [] := rfl

@[simp] theorem encodeChars_cons (c : Char) (chars : List Char) :
    encodeChars (c :: chars) = encodeChar c ++ encodeChars chars :=
  List.flatMap_cons

@[simp] theorem encodeChars_append (front back : List Char) :
    encodeChars (front ++ back) = encodeChars front ++ encodeChars back :=
  List.flatMap_append

theorem dropWhile_encodeChars {skipped : UInt8 → Bool} {passed : Char → Bool}
    (agree : ∀ c, ∀ byte ∈ encodeChar c, skipped byte = passed c) (chars : List Char) :
    (encodeChars chars).dropWhile skipped = encodeChars (chars.dropWhile passed) := by
  induction chars with
  | nil => rfl
  | cons c rest ih =>
    rw [encodeChars_cons]
    cases passes : passed c with
    | true =>
      rw [List.dropWhile_append_of_pos fun byte member => (agree c byte member).trans passes, ih,
        List.dropWhile_cons_of_pos passes]
    | false =>
      obtain ⟨lead, tail, bytes, -⟩ := exists_lead c
      have stops : ¬ skipped lead = true := by
        rw [agree c lead (by simp [bytes]), passes]
        exact Bool.false_ne_true
      rw [List.dropWhile_cons_of_neg (by simp [passes]), encodeChars_cons, bytes,
        List.cons_append, List.dropWhile_cons_of_neg stops]

/-! ## Places -/

theorem length_skipWhile {bytes : Bytes} (skipped : UInt8 → Bool) {place : Nat}
    (within : place ≤ bytes.length) :
    skipWhile bytes skipped place + ((bytes.drop place).dropWhile skipped).length =
      bytes.length := by
  fun_induction skipWhile bytes skipped place with
  | case1 place inside found ih =>
    rw [List.drop_eq_getElem_cons inside, List.dropWhile_cons_of_pos found]
    exact ih inside
  | case2 place inside other =>
    rw [List.drop_eq_getElem_cons inside, List.dropWhile_cons_of_neg other,
      ← List.drop_eq_getElem_cons inside, List.length_drop]
    exact Nat.add_sub_cancel' within
  | case3 place outside =>
    have past : bytes.length ≤ place := Nat.le_of_not_lt outside
    rw [List.drop_eq_nil_of_le past, Nat.le_antisymm within past]
    rfl

def width (chars : List Char) : Nat :=
  (encodeChars chars).length

@[simp] theorem width_append (front back : List Char) :
    width (front ++ back) = width front + width back := by
  simp [width]

theorem width_eq_zero {chars : List Char} : width chars = 0 ↔ chars = [] := by
  cases chars with
  | nil => simp [width]
  | cons c rest =>
    obtain ⟨lead, tail, bytes, -⟩ := exists_lead c
    simp [width, bytes]

/-- The place lies between two characters of the text, the later of which begins `rest`. -/
structure StandsBefore (text rest : List Char) (place : Nat) : Prop where
  suffix : rest <:+ text
  place_add : place + width rest = width text

namespace StandsBefore

variable {text taken rest : List Char} {place start stop : Nat}

theorem whole (text : List Char) : StandsBefore text text 0 :=
  ⟨List.suffix_rfl, Nat.zero_add _⟩

theorem after (stands : StandsBefore text (taken ++ rest) place) :
    StandsBefore text rest (place + width taken) := by
  refine ⟨(List.suffix_append taken rest).trans stands.suffix, ?_⟩
  rw [← stands.place_add, width_append, Nat.add_assoc]

theorem tail {c : Char} (stands : StandsBefore text (c :: rest) place) :
    StandsBefore text rest (place + (encodeChar c).length) := by
  have split : StandsBefore text ([c] ++ rest) place := stands
  simpa [width] using split.after

theorem place_unique (first : StandsBefore text rest start) (second : StandsBefore text rest stop) :
    start = stop :=
  Nat.add_right_cancel (first.place_add.trans second.place_add.symm)

theorem drop_eq (stands : StandsBefore text rest place) :
    (encodeChars text).drop place = encodeChars rest := by
  obtain ⟨done, rfl⟩ := stands.suffix
  have reached : place = (encodeChars done).length := by
    have := stands.place_add
    rw [width_append] at this
    exact Nat.add_right_cancel this
  rw [reached, encodeChars_append]
  exact List.drop_left

theorem getElem?_add (stands : StandsBefore text rest place) (offset : Nat) :
    (encodeChars text)[place + offset]? = (encodeChars rest)[offset]? := by
  rw [← stands.drop_eq, List.getElem?_drop]

theorem le_length (stands : StandsBefore text rest place) : place ≤ (encodeChars text).length :=
  (Nat.le_add_right _ _).trans stands.place_add.le

theorem isBoundary (stands : StandsBefore text rest place) :
    isBoundary (encodeChars text) place = true := by
  have there := stands.getElem?_add 0
  rw [Nat.add_zero] at there
  rw [Utf8.isBoundary, there]
  cases rest with
  | nil =>
    have reached : place = (encodeChars text).length := stands.place_add
    simpa using reached
  | cons c rest =>
    obtain ⟨lead, tail, bytes, whole⟩ := exists_lead c
    simp [bytes, whole]

theorem slice_eq (first : StandsBefore text (taken ++ rest) start)
    (second : StandsBefore text rest stop) :
    slice (encodeChars text) start stop = .ok (String.ofList taken) := by
  obtain rfl := second.place_unique first.after
  rw [slice, if_pos ⟨Nat.le_add_right _ _, second.le_length, first.isBoundary, second.isBoundary⟩,
    Nat.add_sub_cancel_left, first.drop_eq, encodeChars_append]
  have head : (encodeChars taken ++ encodeChars rest).take (width taken) = encodeChars taken :=
    List.take_left
  rw [head, decode, decodeChars_encodeChars]

/-! ## Where the cursor goes -/

theorem peek_eq (stands : StandsBefore text rest place) :
    (encodeChars text)[place]? = (encodeChars rest).head? := by
  rw [List.head?_eq_getElem?]
  exact stands.getElem?_add 0

theorem pass {mark : Char} (ascii : mark.toNat < 0x80)
    (stands : StandsBefore text (mark :: rest) place) : StandsBefore text rest (place + 1) := by
  have passed := stands.tail
  rwa [encodeChar_ascii ascii] at passed

theorem skipWhile {skipped : UInt8 → Bool} {passed : Char → Bool}
    (agree : ∀ c, ∀ byte ∈ encodeChar c, skipped byte = passed c)
    (stands : StandsBefore text rest place) :
    StandsBefore text (rest.dropWhile passed) (skipWhile (encodeChars text) skipped place) := by
  refine ⟨(List.dropWhile_suffix passed).trans stands.suffix, ?_⟩
  have left := length_skipWhile skipped stands.le_length
  rwa [stands.drop_eq, dropWhile_encodeChars agree] at left

/-- Trimming at the end of what was taken gives blanks back that the cursor has passed. -/
theorem trimBack (first : StandsBefore text (taken ++ rest) start)
    (second : StandsBefore text rest stop) :
    ∃ place, trimBack (encodeChars text) start stop = .ok place ∧
      ∃ blanks, taken = trimEnd taken ++ blanks ∧ StandsBefore text (blanks ++ rest) place := by
  induction taken using List.reverseRecOn generalizing rest stop with
  | nil =>
    obtain rfl := first.place_unique second
    refine ⟨start, ?_, [], rfl, second⟩
    cases start with
    | zero => rfl
    | succ start => rw [Utf8.trimBack, if_neg (lt_irrefl _)]
  | append_singleton front c ih =>
    rw [List.append_assoc] at first
    have before : StandsBefore text (c :: rest) (start + width front) := first.after
    obtain ⟨initial, last, bytes⟩ := exists_last c
    obtain rfl : stop = start + width front + initial.length + 1 := by
      have reached := second.place_unique before.tail
      simpa [bytes, Nat.add_assoc] using reached
    have there : (encodeChars text)[start + width front + initial.length]? = some last := by
      rw [before.getElem?_add, encodeChars_cons, bytes]
      simp
    have blank : isBlankByte last = isBlank c := isBlankByte_of_mem (by simp [bytes])
    rw [Utf8.trimBack, if_pos (by omega), there]
    simp only [blank]
    by_cases trimmed : isBlank c = true
    · -- A blank has one byte, so the next one to look at ends what was before it.
      obtain rfl : initial = [] := by
        rw [encodeChar_ascii (ascii_of_blank trimmed)] at bytes
        simpa using congrArg List.length bytes.symm
      obtain ⟨place, back, blanks, split, stands⟩ := ih first before
      refine ⟨place, by rwa [if_pos trimmed], blanks ++ [c], ?_, by simpa using stands⟩
      rw [trimEnd_append_blanks (by simpa using trimmed), ← List.append_assoc, ← split]
    · refine ⟨_, if_neg trimmed, [], ?_, second⟩
      rw [trimEnd_eq_self (by simpa using trimmed), List.append_nil]

theorem cut {passed : Char → Bool} (first : StandsBefore text rest start)
    (second : StandsBefore text (rest.dropWhile passed) stop) :
    ∃ place, Utf8.trimBack (encodeChars text) start stop = .ok place ∧
      slice (encodeChars text) start place =
        .ok (String.ofList (trimEnd (rest.takeWhile passed))) ∧
      (place = start ↔ trimEnd (rest.takeWhile passed) = []) := by
  rw [← List.takeWhile_append_dropWhile (p := passed) (l := rest)] at first
  obtain ⟨place, back, blanks, split, stands⟩ := first.trimBack second
  rw [split, List.append_assoc] at first
  refine ⟨place, back, first.slice_eq stands, ?_⟩
  rw [stands.place_unique first.after, Nat.add_eq_left, width_eq_zero]

end StandsBefore

end IniSettings.Text.Utf8
