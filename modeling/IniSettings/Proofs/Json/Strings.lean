import IniSettings.Json.Grammar
import Mathlib.Tactic.IntervalCases
import Mathlib.Tactic.SplitIfs

/-!
# Reading strings

The reader takes a string apart into its marks, and puts surrogate halves together exactly where
the units of the marks are those of a text. So what it gives is the content of the string between
its quotes, whichever way the characters are written.
-/

namespace IniSettings

namespace Text

theorem exists_point {low high c : Char} (within : low ≤ c ∧ c ≤ high) :
    ∃ point, low.toNat ≤ point ∧ point ≤ high.toNat ∧ c = Char.ofNat point :=
  ⟨c.toNat, within.1, within.2, (Char.ofNat_toNat c).symm⟩

theorem hexValue?_eq_some_iff {c : Char} {value : Nat} :
    hexValue? c = some value ↔
      value < 16 ∧ (c = Nat.digitChar value ∨ c = (Nat.digitChar value).toUpper) := by
  constructor
  · intro found
    unfold hexValue? at found
    split_ifs at found with digit small capital <;> obtain rfl := Option.some.inj found
    · obtain ⟨point, low, high, rfl⟩ := exists_point digit
      simp only [Char.reduceToNat] at low high
      interval_cases point <;> decide
    · obtain ⟨point, low, high, rfl⟩ := exists_point small
      simp only [Char.reduceToNat] at low high
      interval_cases point <;> decide
    · obtain ⟨point, low, high, rfl⟩ := exists_point capital
      simp only [Char.reduceToNat] at low high
      interval_cases point <;> decide
  · rintro ⟨fits, rfl | rfl⟩ <;> interval_cases value <;> rfl

end Text

namespace Json

/-! ## Units -/

theorem units_cases (c : Char) :
    (units c = [c.toNat] ∧ isHigh c.toNat = false ∧ isLow c.toNat = false) ∨
      ∃ high low, units c = [high, low] ∧ isHigh high = true ∧ isLow low = true ∧
        c.toNat = 0x10000 + (high - 0xD800) * 0x400 + (low - 0xDC00) := by
  have scalar : c.toNat < 0xD800 ∨ 0xDFFF < c.toNat ∧ c.toNat < 0x110000 := c.valid
  simp only [isHigh, isLow, Bool.and_eq_false_iff, Bool.and_eq_true, decide_eq_false_iff_not,
    decide_eq_true_eq]
  by_cases small : c.toNat < 0x10000
  · exact .inl ⟨if_pos small, by omega, by omega⟩
  · exact .inr ⟨_, _, if_neg small, by omega, by omega, by omega⟩

theorem units_ne_nil (c : Char) : units c ≠ [] := by
  rcases units_cases c with ⟨one, -⟩ | ⟨high, low, two, -⟩ <;> simp [*]

theorem units_ofNat_pair {high low : Nat} (isHigh : isHigh high = true) (isLow : isLow low = true) :
    units (Char.ofNat (0x10000 + (high - 0xD800) * 0x400 + (low - 0xDC00))) = [high, low] := by
  simp only [Json.isHigh, Json.isLow, Bool.and_eq_true, decide_eq_true_eq] at isHigh isLow
  have point : (Char.ofNat (0x10000 + (high - 0xD800) * 0x400 + (low - 0xDC00))).toNat =
      0x10000 + (high - 0xD800) * 0x400 + (low - 0xDC00) := by
    rw [Char.ofNat, dif_pos (.inr (by omega))]
    rfl
  rw [units, point, if_neg (by omega)]
  simp only [List.cons.injEq, and_true]
  omega

theorem units_append_inj {c d : Char} {front back : List Nat}
    (same : units c ++ front = units d ++ back) : c = d ∧ front = back := by
  rcases units_cases c with ⟨one, notHigh, -⟩ | ⟨high, low, two, isHigh, -, point⟩
  · rcases units_cases d with ⟨one', -⟩ | ⟨high', low', two', isHigh', -⟩
    · rw [one, one'] at same
      obtain ⟨point, rest⟩ := List.cons.inj same
      exact ⟨Char.toNat_inj.1 point, rest⟩
    · rw [one, two'] at same
      rw [(List.cons.inj same).1, isHigh'] at notHigh
      cases notHigh
  · rcases units_cases d with ⟨one', notHigh', -⟩ | ⟨high', low', two', -, -, point'⟩
    · rw [two, one'] at same
      rw [← (List.cons.inj same).1, isHigh] at notHigh'
      cases notHigh'
    · rw [two, two'] at same
      obtain ⟨rfl, later⟩ := List.cons.inj same
      obtain ⟨rfl, rest⟩ := List.cons.inj later
      exact ⟨Char.toNat_inj.1 (point.trans point'.symm), rest⟩

theorem isLow_head_units {c : Char} {unit : Nat} {more : List Nat}
    (begins : units c = unit :: more) :
    isLow unit = false := by
  rcases units_cases c with ⟨one, -, notLow⟩ | ⟨high, low, two, isHigh, -⟩
  · rw [one] at begins
    rwa [← (List.cons.inj begins).1]
  · rw [two] at begins
    rw [← (List.cons.inj begins).1]
    simp only [Json.isHigh, isLow, Bool.and_eq_true, decide_eq_true_eq, Bool.and_eq_false_iff,
      decide_eq_false_iff_not] at isHigh ⊢
    omega

/-! ## Pieces -/

namespace Piece

def units : Piece → List Nat
  | .char c => Json.units c
  | .half unit => [unit]

/-- Every half is one of a surrogate pair. -/
def Proper : Piece → Prop
  | .char _ => True
  | .half unit => isHigh unit = true ∨ isLow unit = true

end Piece

theorem cons_eq_iff {c : Char} {read : Option (List Char)} {later : List Nat}
    (whole : ∀ {text : List Char}, read = some text ↔ later = text.flatMap units)
    {text : List Char} :
    read.map (c :: ·) = some text ↔ units c ++ later = text.flatMap units := by
  constructor
  · intro joined
    obtain ⟨rest, found, rfl⟩ := Option.map_eq_some_iff.1 joined
    rw [List.flatMap_cons, whole.1 found]
  · intro same
    cases text with
    | nil => exact absurd (List.append_eq_nil_iff.1 same).1 (units_ne_nil c)
    | cons d text =>
      obtain ⟨rfl, rest⟩ := units_append_inj same
      rw [whole.2 rest, Option.map_some]

/-- A half that begins a text is a high one, before a low one. -/
theorem half_followed {unit : Nat} {later : List Nat} {text : List Char}
    (half : isHigh unit = true ∨ isLow unit = true)
    (same : unit :: later = text.flatMap units) :
    isHigh unit = true ∧ ∃ low rest, later = low :: rest ∧ isLow low = true := by
  cases text with
  | nil => cases same
  | cons c text =>
    rw [List.flatMap_cons] at same
    rcases units_cases c with ⟨one, notHigh, notLow⟩ | ⟨high, low, two, isHigh, isLow, -⟩
    · rw [one] at same
      rw [(List.cons.inj same).1, notHigh, notLow] at half
      simp at half
    · rw [two] at same
      obtain ⟨rfl, later⟩ := List.cons.inj same
      exact ⟨isHigh, low, _, later, isLow⟩

theorem joinPieces_eq_some_iff {pieces : List Piece} (proper : ∀ piece ∈ pieces, piece.Proper)
    {text : List Char} :
    joinPieces pieces = some text ↔ pieces.flatMap Piece.units = text.flatMap units := by
  fun_induction joinPieces pieces generalizing text with
  | case1 =>
    cases text with
    | nil => simp
    | cons c text => simp [units_ne_nil]
  | case2 c rest ih =>
    rw [List.flatMap_cons]
    exact cons_eq_iff (ih fun piece member => proper piece (List.mem_cons_of_mem _ member))
  | case3 high low rest halves point ih =>
    obtain ⟨isHigh, isLow⟩ := Bool.and_eq_true_iff.1 halves
    have pair : (Piece.half high :: .half low :: rest).flatMap Piece.units =
        units (Char.ofNat point) ++ rest.flatMap Piece.units := by
      rw [units_ofNat_pair isHigh isLow]
      rfl
    rw [pair]
    exact cons_eq_iff (ih fun piece member =>
      proper piece (List.mem_cons_of_mem _ (List.mem_cons_of_mem _ member)))
  | case4 high low rest halves =>
    -- No text has units that begin with two halves which do not fit, nor with a lone one.
    refine iff_of_false (Option.some_ne_none text).symm fun same => halves ?_
    obtain ⟨isHigh, low', rest', later, isLow⟩ := half_followed (proper _ List.mem_cons_self) same
    rw [isHigh, (List.cons.inj later).1, isLow]
    rfl
  | case5 unit rest alone =>
    refine iff_of_false (Option.some_ne_none text).symm ?_
    intro (same : unit :: rest.flatMap Piece.units = text.flatMap units)
    obtain ⟨-, low, rest', later, isLow⟩ := half_followed (proper _ List.mem_cons_self) same
    cases rest with
    | nil => cases later
    | cons piece rest =>
      cases piece with
      | half low => exact alone low rest rfl
      | char c =>
        obtain ⟨unit, more, begins⟩ := List.exists_cons_of_ne_nil (units_ne_nil c)
        have notLow := isLow_head_units begins
        rw [List.flatMap_cons, Piece.units, begins] at later
        rw [(List.cons.inj later).1, isLow] at notLow
        cases notLow

/-! ## Marks -/

theorem escaped?_eq_some_iff {letter c : Char} : escaped? letter = some c ↔ Escape letter c := by
  constructor
  · intro found
    unfold escaped? at found
    split at found <;> cases found <;> constructor
  · rintro (_ | _) <;> rfl

theorem proper_pieceOfUnit (unit : Nat) : (pieceOfUnit unit).Proper := by
  unfold pieceOfUnit
  split
  next half => exact Bool.or_eq_true_iff.1 half
  next => trivial

theorem units_pieceOfUnit {unit : Nat} (fits : unit < 0x10000) :
    (pieceOfUnit unit).units = [unit] := by
  unfold pieceOfUnit
  split
  next => rfl
  next whole =>
    simp only [isHigh, isLow, Bool.or_eq_true, Bool.and_eq_true, decide_eq_true_eq] at whole
    have point : (Char.ofNat unit).toNat = unit := by
      rw [Char.ofNat, dif_pos (by unfold Nat.isValidChar; omega)]
      rfl
    rw [Piece.units, units, point, if_pos fits]

theorem hexValue?_char (digit : HexDigit) : Text.hexValue? digit.char = some digit.value.val :=
  Text.hexValue?_eq_some_iff.2 ⟨digit.value.isLt, digit.spelled⟩

theorem exists_hexDigit {c : Char} {value : Nat} (found : Text.hexValue? c = some value) :
    ∃ digit : HexDigit, digit.char = c ∧ digit.value = value := by
  obtain ⟨fits, spelled⟩ := Text.hexValue?_eq_some_iff.1 found
  exact ⟨⟨c, ⟨value, fits⟩, spelled⟩, rfl, rfl⟩

namespace Mark

def piece : Mark → Piece
  | plain c _ => .char c
  | escape _ c _ => .char c
  | unit first second third last =>
    pieceOfUnit (((first.value * 16 + second.value) * 16 + third.value) * 16 + last.value)

theorem proper_piece (mark : Mark) : mark.piece.Proper := by
  cases mark with
  | plain => trivial
  | escape => trivial
  | unit => exact proper_pieceOfUnit _

theorem units_piece (mark : Mark) : mark.piece.units = mark.units := by
  cases mark with
  | plain => rfl
  | escape => rfl
  | unit first second third last => exact units_pieceOfUnit (by omega)

theorem pieceOfDigits?_eq (first second third last : HexDigit) :
    pieceOfDigits? first.char second.char third.char last.char =
      some (unit first second third last).piece := by
  simp [pieceOfDigits?, hexValue?_char, piece]

theorem exists_unit {a b c d : Char} {read : Piece} (found : pieceOfDigits? a b c d = some read) :
    ∃ mark : Mark, mark.text = ['\\', 'u', a, b, c, d] ∧ mark.piece = read := by
  simp only [pieceOfDigits?, Option.bind_eq_bind, Option.bind_eq_some_iff, Option.pure_def,
    Option.some.injEq] at found
  obtain ⟨_, one, _, two, _, three, _, four, rfl⟩ := found
  obtain ⟨first, rfl, rfl⟩ := exists_hexDigit one
  obtain ⟨second, rfl, rfl⟩ := exists_hexDigit two
  obtain ⟨third, rfl, rfl⟩ := exists_hexDigit three
  obtain ⟨last, rfl, rfl⟩ := exists_hexDigit four
  exact ⟨unit first second third last, rfl, rfl⟩

end Mark

/-! ## Strings -/

theorem readPieces_mark (mark : Mark) (text : List Char) :
    readPieces (mark.text ++ text) =
      (readPieces text).map fun (pieces, rest) => (mark.piece :: pieces, rest) := by
  cases mark with
  | plain c free =>
    obtain ⟨noQuote, noBackslash, printable⟩ := free
    show readPieces (c :: text) = _
    rw [readPieces, if_neg (by simpa [noBackslash] using printable)]
    · cases readPieces text <;> rfl
    all_goals simp [noQuote, noBackslash]
  | escape letter c stands =>
    have noUnit : letter ≠ 'u' := by cases stands <;> decide
    show readPieces ('\\' :: letter :: text) = _
    rw [readPieces, escaped?_eq_some_iff.2 stands]
    · cases readPieces text <;> rfl
    · simp [noUnit]
  | unit first second third last =>
    show readPieces
      ('\\' :: 'u' :: first.char :: second.char :: third.char :: last.char :: text) = _
    rw [readPieces, Mark.pieceOfDigits?_eq]
    cases readPieces text <;> rfl

theorem readPieces_marks (marks : List Mark) (rest : List Char) :
    readPieces (marks.flatMap Mark.text ++ '"' :: rest) = some (marks.map Mark.piece, rest) := by
  induction marks with
  | nil => rfl
  | cons mark marks ih =>
    rw [List.flatMap_cons, List.append_assoc, readPieces_mark, ih]
    rfl

def Spells (text : List Char) (pieces : List Piece) (rest : List Char) : Prop :=
  ∃ marks : List Mark, text = marks.flatMap Mark.text ++ '"' :: rest ∧ marks.map Mark.piece = pieces

theorem Spells.cons (mark : Mark) {text rest : List Char} {pieces : List Piece}
    (spells : Spells text pieces rest) :
    Spells (mark.text ++ text) (mark.piece :: pieces) rest := by
  obtain ⟨marks, rfl, rfl⟩ := spells
  exact ⟨mark :: marks, by simp, rfl⟩

theorem spells_of_readPieces {text rest : List Char} {pieces : List Piece}
    (read : readPieces text = some (pieces, rest)) : Spells text pieces rest := by
  fun_induction readPieces text generalizing pieces with
  | case1 => cases read
  | case2 rest =>
    cases read
    exact ⟨[], rfl, rfl⟩
  | case3 a b c d text ih =>
    obtain ⟨piece, digits, read⟩ := Option.bind_eq_some_iff.1 read
    obtain ⟨⟨later, _⟩, found, whole⟩ := Option.bind_eq_some_iff.1 read
    cases whole
    obtain ⟨mark, spelled, rfl⟩ := Mark.exists_unit digits
    have longer := (ih found).cons mark
    rwa [spelled] at longer
  | case4 letter text other ih =>
    obtain ⟨c, stands, read⟩ := Option.bind_eq_some_iff.1 read
    obtain ⟨⟨later, _⟩, found, whole⟩ := Option.bind_eq_some_iff.1 read
    cases whole
    exact (ih found).cons (.escape letter c (escaped?_eq_some_iff.1 stands))
  | case5 => cases read
  | case6 c text noQuote _ _ free ih =>
    obtain ⟨⟨later, _⟩, found, whole⟩ := Option.bind_eq_some_iff.1 read
    cases whole
    obtain ⟨noBackslash, printable⟩ := not_or.1 free
    exact (ih found).cons (.plain c ⟨noQuote, noBackslash, Nat.le_of_not_lt printable⟩)

theorem joinPieces_marks_iff (marks : List Mark) (text : String) :
    (joinPieces (marks.map Mark.piece)).map String.ofList = some text ↔
      marks.flatMap Mark.units = text.toList.flatMap units := by
  have proper : ∀ piece ∈ marks.map Mark.piece, piece.Proper := by
    intro piece member
    obtain ⟨mark, -, rfl⟩ := List.mem_map.1 member
    exact mark.proper_piece
  have same : (marks.map Mark.piece).flatMap Piece.units = marks.flatMap Mark.units := by
    simp [List.flatMap_map, Mark.units_piece]
  rw [← same, ← joinPieces_eq_some_iff proper, Option.map_eq_some_iff]
  constructor
  · rintro ⟨chars, joined, rfl⟩
    rw [joined, String.toList_ofList]
  · intro joined
    exact ⟨text.toList, joined, String.ofList_toList⟩

theorem readString_eq_some_iff {text rest : List Char} {content : Option String} :
    readString text = some (content, rest) ↔
      ∃ quoted : Quoted, '"' :: text = quoted.text ++ rest ∧ quoted.content = content := by
  rw [readString]
  constructor
  · intro read
    obtain ⟨⟨pieces, _⟩, found, whole⟩ := Option.bind_eq_some_iff.1 read
    cases whole
    obtain ⟨marks, rfl, rfl⟩ := spells_of_readPieces found
    exact ⟨⟨marks, _, joinPieces_marks_iff marks⟩, by simp [Quoted.text], rfl⟩
  · rintro ⟨quoted, whole, rfl⟩
    have body : text = quoted.marks.flatMap Mark.text ++ '"' :: rest := by
      simpa [Quoted.text] using whole
    have joined :
        (joinPieces (quoted.marks.map Mark.piece)).map String.ofList = quoted.content := by
      ext text
      rw [joinPieces_marks_iff, quoted.content_eq_some_iff]
    rw [body, readPieces_marks]
    exact congrArg (fun content => some (content, rest)) joined

end Json

end IniSettings
