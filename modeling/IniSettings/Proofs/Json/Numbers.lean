import IniSettings.Json.Grammar
import IniSettings.Proofs.Text.Decimal
import Mathlib.Data.List.TakeDrop

/-!
# Reading numbers

A number is read as far as it goes: after it there must be nothing that could belong to it. It is a
natural exactly if it is written as one and has no more than 64 bits.
-/

namespace IniSettings.Json
open Text

variable {text rest : List Char}

def NoDigit (text : List Char) : Prop :=
  ∀ c ∈ text.head?, Decimal.isDigit c = false

/-- The next character cannot belong to a number. -/
structure Ends (text : List Char) : Prop where
  digit : NoDigit text
  point : '.' ∉ text.head?
  small : 'e' ∉ text.head?
  capital : 'E' ∉ text.head?

/-! ## Digits -/

theorem Digits.isDigit (digits : Digits) : ∀ c ∈ digits.text, Decimal.isDigit c = true :=
  fun c member => Decimal.isDigit_iff.2 (digits.digit c member)

theorem readDigits_digits (digits : Digits) (stops : NoDigit rest) :
    readDigits (digits.text ++ rest) = some (digits.text, rest) := by
  have outside : rest.takeWhile Decimal.isDigit = [] ∧ rest.dropWhile Decimal.isDigit = rest := by
    cases rest with
    | nil => exact ⟨rfl, rfl⟩
    | cons c rest => simp [stops c rfl]
  rw [readDigits, List.span_eq_takeWhile_dropWhile, List.takeWhile_append_of_pos digits.isDigit,
    List.dropWhile_append_of_pos digits.isDigit, outside.1, outside.2, List.append_nil]
  obtain ⟨c, more, begins⟩ := List.exists_cons_of_ne_nil digits.nonempty
  rw [begins]

theorem exists_digits {read : List Char} (found : readDigits text = some (read, rest)) :
    ∃ digits : Digits, digits.text = read ∧ text = digits.text ++ rest := by
  rw [readDigits, List.span_eq_takeWhile_dropWhile] at found
  split at found
  next => cases found
  next passed left nonempty split =>
    cases found
    obtain ⟨rfl, rfl⟩ := Prod.mk.inj split
    refine ⟨⟨_, nonempty, ?_⟩, rfl,
      List.takeWhile_append_dropWhile.symm⟩
    exact fun c member => Decimal.isDigit_iff.1 (List.mem_takeWhile_imp member)

/-! ## Fractions and exponents -/

theorem noDigit_exponentText (exponent : Option Exponent) (ends : Ends rest) :
    NoDigit (exponentText exponent ++ rest) := by
  cases exponent with
  | none => exact ends.digit
  | some exponent =>
    rintro c ⟨⟩
    rcases exponent.isLetter with letter | letter <;> rw [letter] <;> rfl

theorem noPoint_exponentText (exponent : Option Exponent) (ends : Ends rest) :
    '.' ∉ (exponentText exponent ++ rest).head? := by
  cases exponent with
  | none => exact ends.point
  | some exponent =>
    intro point
    have letter : exponent.letter = '.' := Option.some.inj point
    rcases exponent.isLetter with small | capital
    · exact absurd (small.symm.trans letter) (by decide)
    · exact absurd (capital.symm.trans letter) (by decide)

theorem noDigit_fractionText (fraction : Option Digits) (stops : NoDigit rest) :
    NoDigit (fractionText fraction ++ rest) := by
  cases fraction with
  | none => exact stops
  | some digits =>
    rintro c ⟨⟩
    rfl

theorem readFraction_fractionText (fraction : Option Digits) (stops : NoDigit rest)
    (point : '.' ∉ rest.head?) :
    readFraction (fractionText fraction ++ rest) = some (fraction.isSome, rest) := by
  cases fraction with
  | none =>
    show readFraction rest = _
    unfold readFraction
    split
    next => exact absurd rfl point
    next => rfl
  | some digits =>
    show (readDigits (digits.text ++ rest)).map _ = _
    rw [readDigits_digits digits stops]
    rfl

theorem exists_fraction {fractional : Bool} (found : readFraction text = some (fractional, rest)) :
    ∃ fraction : Option Digits, fraction.isSome = fractional ∧
      text = fractionText fraction ++ rest := by
  unfold readFraction at found
  split at found
  next text =>
    obtain ⟨⟨read, _⟩, found, whole⟩ := Option.map_eq_some_iff.1 found
    cases whole
    obtain ⟨digits, -, rfl⟩ := exists_digits found
    exact ⟨some digits, rfl, rfl⟩
  next =>
    cases found
    exact ⟨none, rfl, rfl⟩

theorem skipSign_sign {sign : List Char} (isSign : sign = [] ∨ sign = ['+'] ∨ sign = ['-'])
    (digits : Digits) (rest : List Char) :
    skipSign (sign ++ (digits.text ++ rest)) = digits.text ++ rest := by
  rcases isSign with rfl | rfl | rfl
  · obtain ⟨c, more, begins⟩ := List.exists_cons_of_ne_nil digits.nonempty
    have digit : Decimal.isDigit c = true := digits.isDigit c (by simp [begins])
    rw [List.nil_append, begins, List.cons_append]
    unfold skipSign
    split
    next plus =>
      rw [(List.cons.inj plus).1] at digit
      exact absurd digit (by decide)
    next minus =>
      rw [(List.cons.inj minus).1] at digit
      exact absurd digit (by decide)
    next => rfl
  · rfl
  · rfl

theorem readExponent_exponentText (exponent : Option Exponent) (ends : Ends rest) :
    readExponent (exponentText exponent ++ rest) = some (exponent.isSome, rest) := by
  cases exponent with
  | none =>
    show readExponent rest = _
    unfold readExponent
    split
    next => exact absurd rfl ends.small
    next => exact absurd rfl ends.capital
    next => rfl
  | some exponent =>
    have digits := readDigits_digits exponent.digits ends.digit
    have whole : exponentText (some exponent) ++ rest =
        exponent.letter :: (exponent.sign ++ (exponent.digits.text ++ rest)) := by
      simp [exponentText, Exponent.text]
    rw [whole]
    rcases exponent.isLetter with letter | letter <;>
    · rw [letter, readExponent, skipSign_sign exponent.isSign, digits]
      rfl

theorem exists_sign (text : List Char) :
    ∃ sign, text = sign ++ skipSign text ∧ (sign = [] ∨ sign = ['+'] ∨ sign = ['-']) := by
  unfold skipSign
  split
  next => exact ⟨['+'], rfl, .inr (.inl rfl)⟩
  next => exact ⟨['-'], rfl, .inr (.inr rfl)⟩
  next => exact ⟨[], rfl, .inl rfl⟩

theorem exists_exponent_digits {letter : Char} (isLetter : letter = 'e' ∨ letter = 'E')
    {exponential : Bool}
    (found : (readDigits (skipSign text)).map (fun read => (true, read.2)) =
      some (exponential, rest)) :
    ∃ exponent : Option Exponent, exponent.isSome = exponential ∧
      letter :: text = exponentText exponent ++ rest := by
  obtain ⟨⟨read, _⟩, digits, whole⟩ := Option.map_eq_some_iff.1 found
  cases whole
  obtain ⟨sign, signed, isSign⟩ := exists_sign text
  obtain ⟨digits, -, unsigned⟩ := exists_digits digits
  refine ⟨some ⟨letter, sign, digits, isLetter, isSign⟩, rfl, ?_⟩
  rw [signed, unsigned]
  simp [exponentText, Exponent.text]

theorem exists_exponent {exponential : Bool}
    (found : readExponent text = some (exponential, rest)) :
    ∃ exponent : Option Exponent, exponent.isSome = exponential ∧
      text = exponentText exponent ++ rest := by
  unfold readExponent at found
  split at found
  next => exact exists_exponent_digits (.inl rfl) found
  next => exact exists_exponent_digits (.inr rfl) found
  next =>
    cases found
    exact ⟨none, rfl, rfl⟩

/-! ## Numbers -/

theorem parseBelow?_digits (bound : Nat) (digits : Digits) :
    Decimal.parseBelow? bound digits.text =
      if fits : Nat.ofDigitChars 10 digits.text 0 < bound then some ⟨_, fits⟩ else none := by
  have parsed := Decimal.parse?_eq_some_iff.2 ⟨digits.nonempty, digits.digit, rfl⟩
  rw [Decimal.parseBelow?_eq, parsed, Option.bind_some]

def numberOf (whole : List Char) (fraction exponent : Bool) : Json :=
  if fraction || exponent then number
  else
    match Decimal.parseBelow? UInt64.size whole with
    | some value => natural (UInt64.ofNat value)
    | none => number

theorem readUnsigned_eq (text : List Char) :
    readUnsigned text = do
      let (whole, rest) ← readDigits text
      if whole.length > 1 && whole.head? == some '0' then none
      else
        let (fraction, rest) ← readFraction rest
        let (exponent, rest) ← readExponent rest
        return (numberOf whole fraction exponent, rest) := by
  refine bind_congr fun (whole, rest) => ?_
  dsimp only
  split
  next => rfl
  next =>
    refine bind_congr fun (fraction, rest) => bind_congr fun (exponent, rest) => ?_
    dsimp only [numberOf]
    split
    next => rfl
    next => cases Decimal.parseBelow? UInt64.size whole <;> rfl

theorem Numeral.value_eq {numeral : Numeral} (unsigned : numeral.negative = false) :
    numeral.value =
      numberOf numeral.whole.text numeral.fraction.isSome numeral.exponent.isSome := by
  rw [value, numberOf, parseBelow?_digits, unsigned]
  cases numeral.fraction with
  | some digits => simp
  | none =>
    cases numeral.exponent with
    | some exponent => simp
    | none =>
      by_cases fits : Nat.ofDigitChars 10 numeral.whole.text 0 < UInt64.size <;> simp [fits]

theorem readUnsigned_numeral {numeral : Numeral} (unsigned : numeral.negative = false)
    (ends : Ends rest) :
    readUnsigned (numeral.text ++ rest) = some (numeral.value, rest) := by
  obtain ⟨negative, whole, fraction, exponent, no_zero_first⟩ := numeral
  obtain rfl : negative = false := unsigned
  have stops := noDigit_exponentText exponent ends
  have first : ¬ (whole.text.length > 1 && whole.text.head? == some '0') = true := by
    rw [Bool.and_eq_true, decide_eq_true_eq, beq_iff_eq]
    rintro ⟨long, zero⟩
    rw [no_zero_first zero] at long
    exact absurd long (by decide)
  rw [Numeral.value_eq rfl]
  show readUnsigned (whole.text ++ (fractionText fraction ++ exponentText exponent) ++ rest) = _
  rw [List.append_assoc, List.append_assoc, readUnsigned_eq,
    readDigits_digits whole (noDigit_fractionText fraction stops)]
  simp only [Option.bind_eq_bind, Option.bind_some, if_neg first,
    readFraction_fractionText fraction stops (noPoint_exponentText exponent ends),
    readExponent_exponentText exponent ends]
  rfl

theorem exists_unsigned {value : Json} (found : readUnsigned text = some (value, rest)) :
    ∃ numeral : Numeral, numeral.negative = false ∧ numeral.value = value ∧
      text = numeral.text ++ rest := by
  rw [readUnsigned_eq] at found
  obtain ⟨⟨read, _⟩, digits, found⟩ := Option.bind_eq_some_iff.1 found
  dsimp only at found
  split at found
  next => cases found
  next zeros =>
    obtain ⟨⟨fractional, _⟩, point, found⟩ := Option.bind_eq_some_iff.1 found
    obtain ⟨⟨exponential, _⟩, letter, found⟩ := Option.bind_eq_some_iff.1 found
    cases found
    obtain ⟨whole, rfl, rfl⟩ := exists_digits digits
    obtain ⟨fraction, rfl, rfl⟩ := exists_fraction point
    obtain ⟨exponent, rfl, rfl⟩ := exists_exponent letter
    have first : whole.text.head? = some '0' → whole.text = ['0'] := by
      intro zero
      obtain ⟨more, begins⟩ := List.head?_eq_some_iff.1 zero
      simpa [begins] using zeros
    exact ⟨⟨false, whole, fraction, exponent, first⟩, rfl, Numeral.value_eq rfl,
      by simp [Numeral.text]⟩

/-! ## Signs -/

namespace Numeral

def negated (numeral : Numeral) : Numeral :=
  { numeral with negative := true }

theorem value_negated (numeral : Numeral) : numeral.negated.value = number := by
  simp [value, negated]

theorem text_negated {numeral : Numeral} (unsigned : numeral.negative = false) :
    numeral.negated.text = '-' :: numeral.text := by
  simp [text, negated, unsigned]

theorem head_ne_minus {numeral : Numeral} (unsigned : numeral.negative = false)
    {c : Char} {more : List Char} (begins : numeral.text ++ rest = c :: more) : c ≠ '-' := by
  obtain ⟨first, digits, whole⟩ := List.exists_cons_of_ne_nil numeral.whole.nonempty
  have digit : Decimal.isDigit first = true := numeral.whole.isDigit first (by simp [whole])
  rw [text, unsigned, whole] at begins
  rw [← (List.cons.inj begins).1]
  rintro rfl
  exact absurd digit (by decide)

theorem cases_sign (numeral : Numeral) :
    numeral.negative = false ∨
      ∃ other : Numeral, other.negative = false ∧ numeral = other.negated := by
  cases sign : numeral.negative with
  | false => exact .inl rfl
  | true => exact .inr ⟨{ numeral with negative := false }, rfl, by rw [negated, ← sign]⟩

end Numeral

theorem readNumber_numeral (numeral : Numeral) (ends : Ends rest) :
    readNumber (numeral.text ++ rest) = some (numeral.value, rest) := by
  rcases numeral.cases_sign with unsigned | ⟨numeral, unsigned, rfl⟩
  · unfold readNumber
    split
    next begins => exact absurd rfl (Numeral.head_ne_minus unsigned begins)
    next => exact readUnsigned_numeral unsigned ends
  · rw [Numeral.text_negated unsigned, List.cons_append, readNumber,
      readUnsigned_numeral unsigned ends, Numeral.value_negated]
    rfl

theorem exists_numeral {value : Json} (found : readNumber text = some (value, rest)) :
    ∃ numeral : Numeral, numeral.value = value ∧ text = numeral.text ++ rest := by
  unfold readNumber at found
  split at found
  next text =>
    obtain ⟨⟨read, _⟩, found, whole⟩ := Option.map_eq_some_iff.1 found
    cases whole
    obtain ⟨numeral, unsigned, -, rfl⟩ := exists_unsigned found
    exact ⟨numeral.negated, numeral.value_negated, by rw [Numeral.text_negated unsigned]; rfl⟩
  next =>
    obtain ⟨numeral, -, value, whole⟩ := exists_unsigned found
    exact ⟨numeral, value, whole⟩

end IniSettings.Json
