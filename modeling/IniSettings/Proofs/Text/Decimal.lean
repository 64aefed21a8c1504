import IniSettings.Text.Decimal
import Mathlib.Data.List.Induction
import Mathlib.Data.List.TakeWhile
import Mathlib.Tactic.Push

/-!
# Reading back the digits of a number

The reader of numbers agrees with the library on what a digit is and on what digits spell, so it
inverts the library's printing of numbers. The other way round, printing what was read leaves out
the zeros that do not count.
-/

namespace IniSettings.Text.Decimal

theorem isDigit_eq (c : Char) : isDigit c = c.isDigit := by
  simp only [isDigit, Char.isDigit]
  rfl

theorem valueFrom_eq (value : Nat) (digits : List Char) :
    valueFrom value digits = Nat.ofDigitChars 10 digits value := by
  rw [valueFrom, Nat.ofDigitChars_eq_foldl]
  simp only [Nat.mul_comm 10]
  rfl

theorem toList_toString (n : Nat) : (toString n).toList = Nat.toDigits 10 n := by
  rw [Nat.toString_eq_repr, Nat.toList_repr]

theorem isDigit_of_mem_toString {n : Nat} {c : Char} (member : c ∈ (toString n).toList) :
    isDigit c = true := by
  rw [toList_toString] at member
  rw [isDigit_eq]
  exact Nat.isDigit_of_mem_toDigits (by decide) (by decide) member

theorem parse?_toString (n : Nat) : parse? (toString n).toList = some n := by
  have digits : (toString n).toList.all isDigit = true :=
    List.all_eq_true.2 fun c => isDigit_of_mem_toString
  have nonempty : (toString n).toList.isEmpty = false := by
    simp [Nat.toDigits_ne_nil]
  have value : valueFrom 0 (toString n).toList = n := by
    rw [valueFrom_eq, toList_toString, Nat.ofDigitChars_ten_toDigits]
  rw [parse?, nonempty, digits, value]
  rfl

theorem parseBelow?_toString {bound : Nat} (value : Fin bound) :
    parseBelow? bound (toString value.val).toList = some value := by
  rw [parseBelow?_eq, parse?_toString]
  simp

/-- The text is made of ASCII digits, at least one, that stand for the number. -/
structure Denotes (text : List Char) (n : Nat) : Prop where
  nonempty : text ≠ []
  digits : ∀ c ∈ text, '0' ≤ c ∧ c ≤ '9'
  value : Nat.ofDigitChars 10 text 0 = n

theorem isDigit_iff {c : Char} : isDigit c = true ↔ '0' ≤ c ∧ c ≤ '9' := by
  simp [isDigit]

theorem parse?_eq_some_iff {text : List Char} {n : Nat} :
    parse? text = some n ↔ Denotes text n := by
  unfold parse?
  constructor
  · intro parsed
    split at parsed
    next => cases parsed
    next accepted =>
      simp only [Bool.or_eq_true, List.isEmpty_iff, Bool.not_eq_true', not_or, Bool.not_eq_false,
        List.all_eq_true, isDigit_iff] at accepted
      refine ⟨accepted.1, accepted.2, ?_⟩
      rw [← valueFrom_eq]
      exact Option.some.inj parsed
  · rintro ⟨nonempty, digits, rfl⟩
    have accepted : ¬ (text.isEmpty || !text.all isDigit) = true := by
      simp only [Bool.or_eq_true, List.isEmpty_iff, Bool.not_eq_true', not_or, Bool.not_eq_false,
        List.all_eq_true, isDigit_iff]
      exact ⟨nonempty, digits⟩
    rw [if_neg accepted, valueFrom_eq]

theorem parseBelow?_eq_some_iff {bound : Nat} {text : List Char} {value : Fin bound} :
    parseBelow? bound text = some value ↔ Denotes text value := by
  rw [parseBelow?_eq, Option.bind_eq_some_iff, ← parse?_eq_some_iff]
  constructor
  · rintro ⟨n, parsed, fits⟩
    split at fits
    next =>
      obtain rfl := Option.some.inj fits
      exact parsed
    next => cases fits
  · intro parsed
    exact ⟨value, parsed, dif_pos value.isLt⟩

def shortest (digits : List Char) : List Char :=
  match digits.dropWhile (· == '0') with
  | [] => ['0']
  | rest => rest

theorem shortest_of_zero {digits : List Char} (zero : (shortest digits).head? = some '0') :
    shortest digits = ['0'] := by
  have other := List.head?_dropWhile_not (· == '0') digits
  unfold shortest at zero ⊢
  split at zero
  next => rfl
  next =>
    rw [zero] at other
    exact absurd other (by decide)

theorem digit_lt_ten {c : Char} (digit : '0' ≤ c ∧ c ≤ '9') : c.toNat - '0'.toNat < 10 := by
  have high : c.toNat ≤ 57 := digit.2
  show c.toNat - 48 < 10
  omega

theorem toDigits_digit {c : Char} (digit : '0' ≤ c ∧ c ≤ '9') :
    Nat.toDigits 10 (c.toNat - '0'.toNat) = [c] := by
  have low : '0'.toNat ≤ c.toNat := digit.1
  have same : (c.toNat - '0'.toNat).digitChar = c := by
    rw [← Char.toNat_inj, Nat.toNat_digitChar_of_lt_ten (digit_lt_ten digit)]
    exact Nat.add_sub_cancel' low
  rw [Nat.toDigits_of_lt_base (digit_lt_ten digit), same]

theorem shortest_append {digits : List Char} (counts : ∃ c ∈ digits, c ≠ '0') (last : Char) :
    shortest (digits ++ [last]) = shortest digits ++ [last] := by
  have stops : digits.dropWhile (· == '0') ≠ [] := by
    rw [ne_eq, List.dropWhile_eq_nil_iff]
    simpa using counts
  obtain ⟨c, rest, left⟩ := List.exists_cons_of_ne_nil stops
  have longer : (digits ++ [last]).dropWhile (· == '0') = c :: (rest ++ [last]) := by
    rw [List.dropWhile_append, left]
    rfl
  rw [shortest, shortest, longer, left]
  rfl

theorem shortest_zeros {digits : List Char} (zeros : ∀ c ∈ digits, c = '0') (last : Char) :
    shortest (digits ++ [last]) = [last] := by
  have skipped : digits.dropWhile (· == '0') = [] := by
    rw [List.dropWhile_eq_nil_iff]
    simpa using zeros
  rw [shortest, List.dropWhile_append, skipped]
  by_cases zero : last = '0' <;> simp [zero]

theorem ofDigitChars_pos {digits : List Char} (all : ∀ c ∈ digits, '0' ≤ c ∧ c ≤ '9')
    (counts : ∃ c ∈ digits, c ≠ '0') : 0 < Nat.ofDigitChars 10 digits 0 := by
  obtain ⟨c, member, other⟩ := counts
  have low : 48 ≤ c.toNat := (all c member).1
  have apart : c.toNat ≠ 48 := fun same => other (Char.toNat_inj.1 same)
  have positive : 0 < digitValue c := by
    show 0 < c.toNat - 48
    omega
  obtain ⟨before, after, rfl⟩ := List.append_of_mem member
  rw [← valueFrom_eq, valueFrom, List.foldl_append, List.foldl_cons]
  exact Nat.lt_of_lt_of_le (Nat.add_pos_right _ positive) (le_valueFrom _ after)

theorem toDigits_ofDigitChars {digits : List Char} (nonempty : digits ≠ [])
    (all : ∀ c ∈ digits, '0' ≤ c ∧ c ≤ '9') :
    Nat.toDigits 10 (Nat.ofDigitChars 10 digits 0) = shortest digits := by
  -- The last digit is the one that printing splits off, so the induction is from the end.
  induction digits using List.reverseRecOn with
  | nil => exact absurd rfl nonempty
  | append_singleton digits last ih =>
    have before : ∀ c ∈ digits, '0' ≤ c ∧ c ≤ '9' := fun c member =>
      all c (List.mem_append_left _ member)
    have digit := all last (List.mem_append_right _ (List.mem_singleton_self last))
    rw [Nat.ofDigitChars_append, Nat.ofDigitChars_cons, Nat.ofDigitChars_nil]
    by_cases zeros : ∀ c ∈ digits, c = '0'
    · have nothing : Nat.ofDigitChars 10 digits 0 = 0 := by
        rw [List.eq_replicate_of_mem zeros, Nat.ofDigitChars_replicate_zero, Nat.mul_zero]
      rw [nothing, Nat.mul_zero, Nat.zero_add, toDigits_digit digit, shortest_zeros zeros]
    · push Not at zeros
      have remain : digits ≠ [] := by
        obtain ⟨c, member, -⟩ := zeros
        exact List.ne_nil_of_mem member
      rw [← Nat.toDigits_append_toDigits (by decide) (ofDigitChars_pos before zeros)
        (digit_lt_ten digit), ih remain before, toDigits_digit digit, shortest_append zeros]

end IniSettings.Text.Decimal
