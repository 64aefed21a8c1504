import IniSettings.Json.Quote
import IniSettings.Proofs.Json.Strings
import IniSettings.Proofs.Text.Decimal

/-!
# Writing what the grammar writes

The compact writer gives the text of one of the trees of its value: every character of a string is
a mark of its own, a natural has the digits the library prints, and nothing stands before a token.
-/

namespace IniSettings.Json
open Text

theorem flatMap_units_injective : Function.Injective (List.flatMap units) := by
  intro text other same
  induction text generalizing other with
  | nil =>
    cases other with
    | nil => rfl
    | cons d other => simp [units_ne_nil] at same
  | cons c text ih =>
    cases other with
    | nil => simp [units_ne_nil] at same
    | cons d other =>
      obtain ⟨rfl, rest⟩ := units_append_inj same
      rw [ih rest]

def HexDigit.of (value : Fin 16) : HexDigit :=
  ⟨Nat.digitChar value, value, .inl rfl⟩

/-- A control character by number. Two digits are always enough. -/
def Mark.control (point : Fin 0x20) : Mark :=
  .unit (.of 0) (.of 0) (.of ⟨point / 16, by omega⟩) (.of ⟨point % 16, by omega⟩)

theorem Mark.units_control (point : Fin 0x20) : (Mark.control point).units = [point.val] := by
  show [((0 * 16 + 0) * 16 + point.val / 16) * 16 + point.val % 16] = [point.val]
  rw [List.cons.injEq]
  exact ⟨by omega, rfl⟩

theorem Mark.text_control_of_lt {point : Fin 0x20} (small : point.val < 0x10) :
    (Mark.control point).text = ['\\', 'u', '0', '0', '0'] ++ hexDigits point := by
  rw [hexDigits, Nat.toDigits_of_lt_base small]
  simp only [Mark.control, Mark.text, HexDigit.of, Nat.div_eq_of_lt small, Nat.mod_eq_of_lt small]
  rfl

theorem Mark.text_control_of_le {point : Fin 0x20} (large : 0x10 ≤ point.val) :
    (Mark.control point).text = ['\\', 'u', '0', '0'] ++ hexDigits point := by
  have high : point.val / 16 = 1 := by omega
  rw [hexDigits, Nat.toDigits_eq_if (by decide), if_neg (by omega), high]
  simp only [Mark.control, Mark.text, HexDigit.of, high]
  rfl

theorem exists_mark (c : Char) :
    ∃ mark : Mark, mark.text = escapedChar c ∧ mark.units = units c := by
  unfold escapedChar
  split
  next => exact ⟨.escape _ _ .quote, rfl, rfl⟩
  next => exact ⟨.escape _ _ .backslash, rfl, rfl⟩
  next => exact ⟨.escape _ _ .backspace, rfl, rfl⟩
  next => exact ⟨.escape _ _ .formFeed, rfl, rfl⟩
  next => exact ⟨.escape _ _ .lineFeed, rfl, rfl⟩
  next => exact ⟨.escape _ _ .carriageReturn, rfl, rfl⟩
  next => exact ⟨.escape _ _ .tab, rfl, rfl⟩
  next noQuote noBackslash _ _ _ _ _ =>
    have alone (fits : c.toNat < 0x20) : units c = [c.toNat] := if_pos (by omega)
    split
    next small =>
      have fits : c.toNat < 0x20 := by omega
      refine ⟨.control ⟨c.toNat, fits⟩, Mark.text_control_of_lt small, ?_⟩
      rw [Mark.units_control, alone fits]
    next large =>
      split
      next fits =>
        refine ⟨.control ⟨c.toNat, fits⟩, Mark.text_control_of_le (Nat.le_of_not_lt large), ?_⟩
        rw [Mark.units_control, alone fits]
      next printable =>
        exact ⟨.plain c ⟨noQuote, noBackslash, Nat.le_of_not_lt printable⟩, rfl, rfl⟩

theorem exists_marks (text : List Char) :
    ∃ marks : List Mark, marks.flatMap Mark.text = text.flatMap escapedChar ∧
      marks.flatMap Mark.units = text.flatMap units := by
  induction text with
  | nil => exact ⟨[], rfl, rfl⟩
  | cons c text ih =>
    obtain ⟨mark, escaped, spelled⟩ := exists_mark c
    obtain ⟨marks, later, rest⟩ := ih
    refine ⟨mark :: marks, ?_, ?_⟩
    · rw [List.flatMap_cons, List.flatMap_cons, escaped, later]
    · rw [List.flatMap_cons, List.flatMap_cons, spelled, rest]

theorem exists_quoted (text : String) :
    ∃ quoted : Quoted, quoted.text = (quote text).toList ∧ quoted.content = some text := by
  obtain ⟨marks, escaped, spelled⟩ := exists_marks text.toList
  have only (other : String) : some text = some other ↔
      marks.flatMap Mark.units = other.toList.flatMap units := by
    rw [spelled, flatMap_units_injective.eq_iff, String.toList_inj, Option.some.injEq]
  refine ⟨⟨marks, some text, only⟩, ?_, rfl⟩
  rw [Quoted.text, escaped, quote, String.toList_ofList]

theorem exists_natural (value : UInt64) :
    ∃ numeral : Numeral, numeral.text = (toString value.toNat).toList ∧
      numeral.value = .natural value := by
  have digit : ∀ c ∈ Nat.toDigits 10 value.toNat, '0' ≤ c ∧ c ≤ '9' := by
    intro c member
    rw [← Decimal.toList_toString] at member
    exact Decimal.isDigit_iff.1 (Decimal.isDigit_of_mem_toString member)
  have short := Decimal.toDigits_ofDigitChars Nat.toDigits_ne_nil digit
  rw [Nat.ofDigitChars_ten_toDigits] at short
  have first (zero : (Nat.toDigits 10 value.toNat).head? = some '0') :
      Nat.toDigits 10 value.toNat = ['0'] := by
    rw [short] at zero ⊢
    exact Decimal.shortest_of_zero zero
  refine ⟨⟨false, ⟨_, Nat.toDigits_ne_nil, digit⟩, none, none, first⟩, ?_, ?_⟩
  · rw [Decimal.toList_toString]
    exact List.append_nil _
  · rw [Numeral.value]
    dsimp only
    rw [Nat.ofDigitChars_ten_toDigits, if_pos ⟨rfl, rfl, rfl, value.toNat_lt⟩, UInt64.ofNat_toNat]

def noBlanks : Blanks :=
  ⟨[], nofun⟩

def memberText (member : String × Scalar) : String :=
  quote member.1 ++ ":" ++ String.ofList member.2.text

theorem exists_member (member : String × Scalar) :
    ∃ (key : Key) (value : Source), key.text ++ value.text = (memberText member).toList ∧
      key.name.content = some member.1 ∧ value.value = member.2.value := by
  obtain ⟨quoted, spelled, content⟩ := exists_quoted member.1
  refine ⟨⟨noBlanks, quoted, noBlanks⟩, .scalar noBlanks member.2, ?_, content, rfl⟩
  simp [memberText, Key.text, Source.text, noBlanks, spelled]

theorem exists_joined (first : String × Scalar) (rest : List (String × Scalar)) :
    ∃ members : Members,
      members.text = (",".intercalate ((first :: rest).map memberText)).toList ++ ['}'] ∧
      members.values = (first :: rest).map fun member => (some member.1, member.2.value) := by
  induction rest generalizing first with
  | nil =>
    obtain ⟨key, value, text, content, same⟩ := exists_member first
    refine ⟨.last key value noBlanks, ?_, ?_⟩
    · simp [Members.text, noBlanks, ← text]
    · simp [Members.values, content, same]
  | cons second rest ih =>
    obtain ⟨key, value, text, content, same⟩ := exists_member first
    obtain ⟨members, later, values⟩ := ih second
    rw [String.toList_intercalate] at later ⊢
    refine ⟨.more key value noBlanks members, ?_, ?_⟩
    · rw [List.map_cons, List.map_cons, List.map_cons, List.map_cons, List.intercalate_cons_cons,
        List.append_assoc, ← List.map_cons, ← List.map_cons, ← later, ← text]
      simp [Members.text, noBlanks]
    · rw [Members.values, content, same, values]
      rfl

theorem toList_compact (members : List (String × Scalar)) :
    (compact (members.map fun member => (member.1, String.ofList member.2.text))).toList =
      '{' :: (",".intercalate (members.map memberText)).toList ++ ['}'] := by
  have texts : members.map memberText =
      (members.map fun member => (member.1, String.ofList member.2.text)).map
        fun member => quote member.1 ++ ":" ++ member.2 := by
    rw [List.map_map]
    rfl
  simp [compact, texts]

/-- A compact object with a scalar in each member is written as the grammar writes it. -/
theorem exists_compact (first : String × Scalar) (rest : List (String × Scalar)) :
    ∃ written : Written,
      written.text = compact ((first :: rest).map fun member =>
        (member.1, String.ofList member.2.text)) ∧
      written.value = .object ((first :: rest).map fun member =>
        (some member.1, member.2.value)) := by
  obtain ⟨members, text, values⟩ := exists_joined first rest
  refine ⟨⟨.object noBlanks members, noBlanks⟩, ?_, congrArg object values⟩
  rw [← String.toList_inj, Written.text, String.toList_ofList, toList_compact, List.cons_append,
    ← text]
  exact List.append_nil _

end IniSettings.Json
