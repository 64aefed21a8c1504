import IniSettings.Field.ByteCut
import IniSettings.Proofs.Text.Boundary

/-!
# Names split at their last colon

A name is cut twice at the place past its last colon, which is looked for backwards among its
bytes. A colon is ASCII, so that place and the one before it lie between two characters, and what
follows is the longest ending of the name without a colon. A text is refused as a name exactly if
nothing follows.
-/

namespace IniSettings
open Text

/-! ## The last colon among the characters -/

namespace FieldName

variable {text before after : List Char}

theorem splitAtLastColon_eq_none_iff : splitAtLastColon text = none ↔ ':' ∉ text := by
  induction text with
  | nil => simp [splitAtLastColon]
  | cons c rest ih =>
    rw [splitAtLastColon]
    cases later : splitAtLastColon rest with
    | none =>
      have absent : ':' ∉ rest := ih.1 later
      by_cases colon : c = ':' <;> simp [colon, absent, eq_comm]
    | some split =>
      have present : ':' ∈ rest := by
        by_contra absent
        simp [ih.2 absent] at later
      simp [present]

theorem splitAtLastColon_concat (absent : ':' ∉ after) :
    splitAtLastColon (before ++ ':' :: after) = some (before, after) := by
  induction before with
  | nil =>
    rw [List.nil_append, splitAtLastColon, splitAtLastColon_eq_none_iff.2 absent]
    rfl
  | cons c before ih => rw [List.cons_append, splitAtLastColon, ih]

theorem exists_last_colon (present : ':' ∈ text) :
    ∃ before after, text = before ++ ':' :: after ∧ ':' ∉ after := by
  obtain ⟨later, earlier, split, absent⟩ := List.eq_append_cons_of_mem (List.mem_reverse.2 present)
  refine ⟨earlier.reverse, later.reverse, ?_, by simpa using absent⟩
  simpa using congrArg List.reverse split

theorem suffix_of_colon_not_mem {ending : List Char} (ends : ending <:+ before ++ ':' :: after)
    (absent : ':' ∉ ending) : ending <:+ after := by
  rcases Nat.lt_or_ge after.length ending.length with longer | shorter
  · -- An ending that is longer than what follows the colon holds the colon.
    have colon : ':' :: after <:+ ending :=
      List.suffix_of_suffix_length_le (List.suffix_append _ _) ends longer
    exact absurd (colon.subset List.mem_cons_self) absent
  · exact List.suffix_of_suffix_length_le ends
      ((List.suffix_cons _ _).trans (List.suffix_append _ _)) shorter

end FieldName

/-! ## The last colon among the bytes -/

namespace Text.Utf8

theorem backToColon_append (front : Bytes) {back : Bytes} (rest : Bytes)
    (absent : ∀ byte ∈ back, isMark ':' byte = false) :
    backToColon (front ++ back ++ rest) (front.length + back.length) =
      backToColon (front ++ back ++ rest) front.length := by
  -- The loop meets the last byte first, so the induction is from the end.
  induction back using List.reverseRecOn generalizing rest with
  | nil => rfl
  | append_singleton back byte ih =>
    have there : (front ++ (back ++ [byte]) ++ rest)[front.length + back.length]? = some byte := by
      simp
    have before := ih ([byte] ++ rest) fun byte member =>
      absent byte (List.mem_append_left _ member)
    simp only [List.append_assoc] at before there ⊢
    rw [List.length_append, List.length_singleton, ← Nat.add_assoc, backToColon, there]
    simpa [absent byte] using before

theorem isMark_colon_of_mem {text : List Char} (absent : ':' ∉ text) :
    ∀ byte ∈ encodeChars text, isMark ':' byte = false := by
  intro byte member
  obtain ⟨c, inside, within⟩ := List.mem_flatMap.1 member
  rw [isMark_of_mem (by decide) within, beq_eq_false_iff_ne]
  exact fun colon => absent (colon ▸ inside)

theorem backToColon_of_not_mem {text : List Char} (absent : ':' ∉ text) :
    backToColon (encodeChars text) (encodeChars text).length = .ok 0 := by
  have back := backToColon_append [] [] (isMark_colon_of_mem absent)
  simpa [backToColon] using back

theorem backToColon_colon (front : Bytes) {byte : UInt8} (rest : Bytes)
    (colon : isMark ':' byte = true) :
    backToColon (front ++ [byte] ++ rest) (front.length + 1) = .ok (front.length + 1) := by
  have there : (front ++ [byte] ++ rest)[front.length]? = some byte := by simp
  rw [backToColon, there]
  exact if_pos colon

theorem backToColon_concat (before : List Char) {after : List Char} (absent : ':' ∉ after) :
    backToColon (encodeChars (before ++ ':' :: after))
      (encodeChars (before ++ ':' :: after)).length = .ok (byteLength before + 1) := by
  let front := encodeChars before
  let colon := UInt8.ofNat ':'.toNat
  have whole : encodeChars (before ++ ':' :: after) = front ++ [colon] ++ encodeChars after := by
    rw [encodeChars_append, encodeChars_cons, encodeChar_ascii (by decide), List.append_assoc]
  have back := backToColon_append (front ++ [colon]) [] (isMark_colon_of_mem absent)
  rw [List.append_nil] at back
  rw [whole, List.length_append, back, List.length_append, List.length_singleton,
    backToColon_colon front _ (by decide), length_encodeChars]

end Text.Utf8

namespace FieldName
open Utf8

/-! ## What a text spells -/

theorem utf8ByteSize_ofList (text : List Char) :
    (String.ofList text).utf8ByteSize = byteLength text := by
  induction text with
  | nil => rfl
  | cons c rest ih =>
    have whole : String.ofList (c :: rest) = String.singleton c ++ String.ofList rest := by
      rw [String.singleton_eq_ofList, ← String.ofList_append]
      rfl
    rw [whole, String.utf8ByteSize_append, String.utf8ByteSize_singleton, ih, byteLength]

/-- The name is the text, cut at its last colon or not at all. -/
inductive Cuts (text : String) (name : FieldName) : Prop where
  | whole (absent : ':' ∉ text.toList) (space : name.space = none) (key : name.key = text)
  | colon {before after : List Char} (split : text.toList = before ++ ':' :: after)
    (absent : ':' ∉ after) (space : name.space = some (String.ofList before))
    (key : name.key = String.ofList after)

variable {text : String} {name : FieldName}

theorem ofText_cases (text : String) :
    (ofText text = .error .emptyFieldKey ∧ (text = "" ∨ text.toList.getLast? = some ':')) ∨
      ∃ name, ofText text = .ok name ∧ Cuts text name := by
  by_cases present : ':' ∈ text.toList
  · obtain ⟨before, after, split, absent⟩ := exists_last_colon present
    have cut : splitAtLastColon text.toList = some (before, after) := by
      rw [split, splitAtLastColon_concat absent]
    by_cases key_ne : String.ofList after ≠ ""
    · refine .inr ⟨⟨some (String.ofList before), String.ofList after, key_ne⟩, ?_,
        .colon split absent rfl rfl⟩
      simp [ofText, cut, key_ne]
    · have nothing : after = [] := by simpa using key_ne
      refine .inl ⟨?_, .inr (by simp [split, nothing])⟩
      simp [ofText, cut, nothing]
  · have cut := splitAtLastColon_eq_none_iff.2 present
    by_cases key_ne : text ≠ ""
    · refine .inr ⟨⟨none, text, key_ne⟩, ?_, .whole present rfl rfl⟩
      simp [ofText, cut, key_ne]
    · have nothing : text = "" := not_not.1 key_ne
      refine .inl ⟨?_, .inl nothing⟩
      simp [ofText, splitAtLastColon, nothing]

namespace Cuts

theorem key_suffix (cuts : Cuts text name) : name.key.toList <:+ text.toList := by
  cases cuts with
  | whole absent space key => simp only [key, List.suffix_rfl]
  | colon split absent space key =>
    rw [key, split, String.toList_ofList]
    exact (List.suffix_cons _ _).trans (List.suffix_append _ _)

theorem colon_not_mem_key (cuts : Cuts text name) : ':' ∉ name.key.toList := by
  cases cuts with
  | whole absent space key => rwa [key]
  | colon split absent space key => rwa [key, String.toList_ofList]

theorem suffix_key (cuts : Cuts text name) {ending : List Char} (ends : ending <:+ text.toList)
    (absent : ':' ∉ ending) : ending <:+ name.key.toList := by
  cases cuts with
  | whole _ space key => rwa [key]
  | colon split _ space key =>
    rw [key, String.toList_ofList]
    exact suffix_of_colon_not_mem (split ▸ ends) absent

theorem not_refused (cuts : Cuts text name) :
    ¬ (text = "" ∨ text.toList.getLast? = some ':') := by
  have key_ne : name.key.toList ≠ [] := by simpa using name.key_ne
  obtain ⟨front, whole⟩ := cuts.key_suffix
  rintro (rfl | last)
  · exact key_ne (List.suffix_nil.1 cuts.key_suffix)
  · rw [← whole, List.getLast?_append_of_ne_nil _ key_ne] at last
    exact cuts.colon_not_mem_key (List.mem_of_getLast? last)

theorem text_eq (cuts : Cuts text name) : name.text = text := by
  cases cuts with
  | whole absent space key => rw [FieldName.text, space, key]
  | colon split absent space key =>
    rw [FieldName.text, space, key, ← String.toList_inj, split]
    simp

theorem space_eq (cuts : Cuts text name) :
    if ':' ∈ text.toList then text = name.namespaceText ++ ":" ++ name.key
    else name.namespaceText = "" ∧ name.key = text := by
  have whole := cuts.text_eq
  cases cuts with
  | whole absent space key =>
    rw [if_neg absent, namespaceText, space]
    exact ⟨rfl, key⟩
  | colon split absent space key =>
    rw [if_pos (by simp [split]), namespaceText, space, ← whole, FieldName.text, space]
    rfl

theorem keyOffset_eq (cuts : Cuts text name) :
    backToColon (encode text) (encode text).length = .ok name.keyOffset := by
  cases cuts with
  | whole absent space key =>
    rw [keyOffset, space]
    exact backToColon_of_not_mem absent
  | colon split absent space key =>
    rw [keyOffset, space, encode, split, backToColon_concat _ absent]
    exact congrArg (fun size => Except.ok (size + 1)) (utf8ByteSize_ofList _).symm

theorem keyOffset_eq_zero_iff (cuts : Cuts text name) :
    name.keyOffset = 0 ↔ ':' ∉ text.toList := by
  rw [keyOffset]
  cases cuts with
  | whole absent space key => simp [space, absent]
  | colon split absent space key => simp [space, split]

theorem slice_key (cuts : Cuts text name) :
    slice (encode text) name.keyOffset (encode text).length = .ok name.key := by
  rw [encode, length_encodeChars]
  cases cuts with
  | whole absent space key =>
    rw [keyOffset, space, key]
    exact (slice_isPrefix List.prefix_rfl).trans (by rw [String.ofList_toList])
  | @colon before after split absent space key =>
    have first : StandsBefore text.toList (after ++ []) (byteLength before + 1) := by
      rw [split, List.append_nil]
      exact (standsBefore_append before (':' :: after)).pass (by decide)
    have second : StandsBefore text.toList [] (byteLength text.toList) := by
      simpa using standsBefore_append text.toList []
    rw [keyOffset, space, key, ← first.slice_eq second]
    exact congrArg (fun size => slice _ (size + 1) _) (utf8ByteSize_ofList before)

theorem keyIn_eq (cuts : Cuts text name) : keyIn (encode text) = .ok name.key := by
  rw [keyIn, cuts.keyOffset_eq]
  exact cuts.slice_key

theorem keyOffset_lt (cuts : Cuts text name) : name.keyOffset < (encode text).length := by
  by_contra beyond
  have nothing : (encode text).length - name.keyOffset = 0 :=
    Nat.sub_eq_zero_of_le (Nat.le_of_not_lt beyond)
  have key := cuts.slice_key
  rw [slice, nothing, List.take_zero] at key
  split at key
  next => exact name.key_ne (Except.ok.inj key).symm
  next => cases key

theorem namespaceIn_eq (cuts : Cuts text name) :
    namespaceIn (encode text) = .ok name.namespaceText := by
  have place := cuts.keyOffset_eq
  rw [namespaceIn, place]
  cases cuts with
  | whole absent space key =>
    rw [keyOffset, namespaceText, space]
    rfl
  | @colon before after split absent space key =>
    rw [keyOffset, namespaceText, space]
    show slice (encode text) 0 (String.ofList before).utf8ByteSize = .ok (String.ofList before)
    rw [utf8ByteSize_ofList, encode, split]
    exact slice_isPrefix (List.prefix_append _ _)

end Cuts

theorem backToColon_of_refused (refused : text = "" ∨ text.toList.getLast? = some ':') :
    backToColon (encode text) (encode text).length = .ok (encode text).length := by
  rcases refused with rfl | last
  · rfl
  · obtain ⟨before, split⟩ := List.getLast?_eq_some_iff.1 last
    rw [encode, split, backToColon_concat before List.not_mem_nil]
    simp [encodeChar_ascii, length_encodeChars]

theorem ofText_exact (text : String) :
    let bytes := encode text
    let refused := text = "" ∨ text.toList.getLast? = some ':'
    (refused → ofText text = .error .emptyFieldKey) ∧
    (¬ refused → ∃ name, ofText text = .ok name ∧ name.text = text ∧
      name.key ≠ "" ∧ ':' ∉ name.key.toList ∧ name.key.toList <:+ text.toList ∧
      (∀ ending, ending <:+ text.toList → ':' ∉ ending → ending <:+ name.key.toList) ∧
      (name.keyOffset = 0 ↔ ':' ∉ text.toList) ∧
      (if ':' ∈ text.toList then text = name.namespaceText ++ ":" ++ name.key
        else name.namespaceText = "" ∧ name.key = text) ∧
      backToColon bytes bytes.length = .ok name.keyOffset ∧
      keyIn bytes = .ok name.key ∧ namespaceIn bytes = .ok name.namespaceText) ∧
    ∃ offset, backToColon bytes bytes.length = .ok offset ∧ (refused ↔ bytes.length ≤ offset) := by
  intro bytes refused
  rcases ofText_cases text with ⟨error, refusal⟩ | ⟨name, accepted, cuts⟩
  · exact ⟨fun _ => error, fun other => absurd refusal other,
      bytes.length, backToColon_of_refused refusal, iff_of_true refusal le_rfl⟩
  · refine ⟨fun refusal => absurd refusal cuts.not_refused, fun _ => ⟨name, accepted, ?_⟩,
      name.keyOffset, cuts.keyOffset_eq, ?_⟩
    · exact ⟨cuts.text_eq, name.key_ne, cuts.colon_not_mem_key, cuts.key_suffix,
        fun ending => cuts.suffix_key, cuts.keyOffset_eq_zero_iff, cuts.space_eq,
        cuts.keyOffset_eq, cuts.keyIn_eq, cuts.namespaceIn_eq⟩
    · exact iff_of_false cuts.not_refused (Nat.not_le_of_lt cuts.keyOffset_lt)

end FieldName

end IniSettings
