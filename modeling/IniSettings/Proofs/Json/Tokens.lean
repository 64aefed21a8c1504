import IniSettings.Proofs.Json.Numbers
import IniSettings.Proofs.Json.Strings

/-!
# Reading tokens

Each part of the reader takes from the beginning of a text what a part of the grammar writes there:
blanks, scalars and keys. A scalar is told from an array or an object by its first character.
-/

namespace IniSettings.Json
open Text

variable {text rest : List Char}

theorem isSpace_iff {c : Char} :
    isSpace c = true ↔ c = ' ' ∨ c = '\n' ∨ c = '\t' ∨ c = '\r' := by
  simp only [isSpace, Bool.or_eq_true, beq_iff_eq, or_assoc]

theorem skipSpace_blanks (blanks : Blanks) (rest : List Char) :
    skipSpace (blanks.text ++ rest) = skipSpace rest :=
  List.dropWhile_append_of_pos fun c member => isSpace_iff.2 (blanks.blank c member)

theorem exists_blanks (text : List Char) :
    ∃ blanks : Blanks, text = blanks.text ++ skipSpace text :=
  ⟨⟨text.takeWhile isSpace, fun _ member => isSpace_iff.1 (List.mem_takeWhile_imp member)⟩,
    List.takeWhile_append_dropWhile.symm⟩

theorem Blanks.skipSpace_text (blanks : Blanks) : skipSpace blanks.text = [] := by
  have skipped := skipSpace_blanks blanks []
  rwa [List.append_nil] at skipped

theorem Ends.blanks (blanks : Blanks) (ends : Ends rest) : Ends (blanks.text ++ rest) := by
  obtain ⟨text, blank⟩ := blanks
  cases text with
  | nil => exact ends
  | cons c text =>
    rcases blank c List.mem_cons_self with rfl | rfl | rfl | rfl <;>
      exact ⟨by rintro _ ⟨⟩; rfl, by rintro ⟨⟩, by rintro ⟨⟩, by rintro ⟨⟩⟩

theorem ends_nil : Ends [] :=
  ⟨nofun, nofun, nofun, nofun⟩

theorem ends_mark {mark : Char} (isMark : mark = ',' ∨ mark = ']' ∨ mark = '}') :
    Ends (mark :: rest) := by
  rcases isMark with rfl | rfl | rfl <;>
    exact ⟨by rintro _ ⟨⟩; rfl, by rintro ⟨⟩, by rintro ⟨⟩, by rintro ⟨⟩⟩

theorem afterWord_word (word rest : List Char) : afterWord word (word ++ rest) = some rest := by
  induction word with
  | nil => rfl
  | cons w word ih => simpa [afterWord] using ih

theorem eq_of_afterWord {word : List Char} (found : afterWord word text = some rest) :
    text = word ++ rest := by
  fun_induction afterWord word text with
  | case1 text =>
    cases found
    rfl
  | case2 => cases found
  | case3 word c text ih => rw [ih found, List.cons_append]
  | case4 => cases found

theorem Numeral.exists_head (numeral : Numeral) :
    ∃ c more, numeral.text = c :: more ∧ (c = '-' ∨ Decimal.isDigit c = true) := by
  obtain ⟨c, more, whole⟩ := List.exists_cons_of_ne_nil numeral.whole.nonempty
  have digit : Decimal.isDigit c = true := numeral.whole.isDigit c (by simp [whole])
  cases sign : numeral.negative with
  | false => exact ⟨c, _, by rw [text, sign, whole]; rfl, .inr digit⟩
  | true => exact ⟨'-', _, by rw [text, sign]; rfl, .inl rfl⟩

theorem ne_of_numeral {c mark : Char} (begins : c = '-' ∨ Decimal.isDigit c = true)
    (other : mark ≠ '-' ∧ Decimal.isDigit mark = false) : c ≠ mark := by
  rintro rfl
  rcases begins with minus | digit
  · exact other.1 minus
  · exact Bool.false_ne_true (other.2.symm.trans digit)

theorem Scalar.exists_head (scalar : Scalar) :
    ∃ c more, scalar.text = c :: more ∧ isSpace c = false ∧ c ≠ '[' ∧ c ≠ '{' ∧ c ≠ ']' := by
  cases scalar with
  | null => exact ⟨'n', _, rfl, by decide⟩
  | bool value =>
    cases value with
    | true => exact ⟨'t', _, rfl, by decide⟩
    | false => exact ⟨'f', _, rfl, by decide⟩
  | string quoted => exact ⟨'"', _, rfl, by decide⟩
  | number numeral =>
    obtain ⟨c, more, whole, begins⟩ := numeral.exists_head
    have other (mark : Char) (apart : mark ≠ '-' ∧ Decimal.isDigit mark = false) : c ≠ mark :=
      ne_of_numeral begins apart
    refine ⟨c, more, whole, ?_, other '[' (by decide), other '{' (by decide), other ']' (by decide)⟩
    simp [isSpace, other ' ' (by decide), other '\n' (by decide), other '\t' (by decide),
      other '\r' (by decide)]

theorem readScalar_scalar (scalar : Scalar) (ends : Ends rest) :
    readScalar (scalar.text ++ rest) = some (scalar.value, rest) := by
  cases scalar with
  | null => exact congrArg (Option.map _) (afterWord_word ['u', 'l', 'l'] rest)
  | bool value =>
    cases value with
    | true => exact congrArg (Option.map _) (afterWord_word ['r', 'u', 'e'] rest)
    | false => exact congrArg (Option.map _) (afterWord_word ['a', 'l', 's', 'e'] rest)
  | string quoted =>
    have read : readString (quoted.marks.flatMap Mark.text ++ ['"'] ++ rest) =
        some (quoted.content, rest) :=
      readString_eq_some_iff.2 ⟨quoted, rfl, rfl⟩
    exact congrArg (Option.map _) read
  | number numeral =>
    obtain ⟨c, more, whole, begins⟩ := numeral.exists_head
    have read := readNumber_numeral numeral ends
    rw [whole] at read
    show readScalar (numeral.text ++ rest) = some (numeral.value, rest)
    rw [whole]
    unfold readScalar
    split
    next same => exact absurd (List.cons.inj same).1 (ne_of_numeral begins (by decide))
    next same => exact absurd (List.cons.inj same).1 (ne_of_numeral begins (by decide))
    next same => exact absurd (List.cons.inj same).1 (ne_of_numeral begins (by decide))
    next same => exact absurd (List.cons.inj same).1 (ne_of_numeral begins (by decide))
    next => exact read

theorem exists_scalar {value : Json} (found : readScalar text = some (value, rest)) :
    ∃ scalar : Scalar, scalar.value = value ∧ text = scalar.text ++ rest := by
  unfold readScalar at found
  split at found
  next text =>
    obtain ⟨⟨content, _⟩, read, whole⟩ := Option.map_eq_some_iff.1 found
    cases whole
    obtain ⟨quoted, spelled, rfl⟩ := readString_eq_some_iff.1 read
    exact ⟨.string quoted, rfl, spelled⟩
  next text =>
    obtain ⟨_, word, whole⟩ := Option.map_eq_some_iff.1 found
    cases whole
    exact ⟨.null, rfl, by rw [eq_of_afterWord word]; rfl⟩
  next text =>
    obtain ⟨_, word, whole⟩ := Option.map_eq_some_iff.1 found
    cases whole
    exact ⟨.bool true, rfl, by rw [eq_of_afterWord word]; rfl⟩
  next text =>
    obtain ⟨_, word, whole⟩ := Option.map_eq_some_iff.1 found
    cases whole
    exact ⟨.bool false, rfl, by rw [eq_of_afterWord word]; rfl⟩
  next =>
    obtain ⟨numeral, rfl, whole⟩ := exists_numeral found
    exact ⟨.number numeral, rfl, whole⟩

theorem readKey_key (key : Key) (rest : List Char) :
    readKey (key.text ++ rest) = some (key.name.content, rest) := by
  have read : readString (key.name.marks.flatMap Mark.text ++ ['"'] ++
      (key.after.text ++ ':' :: rest)) = some (key.name.content, key.after.text ++ ':' :: rest) :=
    readString_eq_some_iff.2 ⟨key.name, rfl, rfl⟩
  have whole : key.text ++ rest =
      key.before.text ++ (key.name.text ++ (key.after.text ++ ':' :: rest)) := by
    simp [Key.text]
  have quote : skipSpace (key.name.text ++ (key.after.text ++ ':' :: rest)) =
      '"' :: (key.name.marks.flatMap Mark.text ++ ['"'] ++ (key.after.text ++ ':' :: rest)) := rfl
  have colon : skipSpace (':' :: rest) = ':' :: rest := rfl
  rw [whole, readKey, skipSpace_blanks, quote]
  simp only [read, skipSpace_blanks, colon]

theorem exists_key {content : Option String} (found : readKey text = some (content, rest)) :
    ∃ key : Key, key.name.content = content ∧ text = key.text ++ rest := by
  obtain ⟨before, outside⟩ := exists_blanks text
  unfold readKey at found
  split at found
  next inner quote =>
    split at found
    next => cases found
    next after read =>
      obtain ⟨name, spelled, rfl⟩ := readString_eq_some_iff.1 read
      obtain ⟨blanks, inside⟩ := exists_blanks after
      split at found
      next colon =>
        cases found
        refine ⟨⟨before, name, blanks⟩, rfl, ?_⟩
        rw [outside, quote, spelled, inside, colon]
        simp [Key.text]
      next => cases found
  next => cases found

end IniSettings.Json
