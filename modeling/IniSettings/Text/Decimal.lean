/-!
# Decimal numbers

The strict reading of a number: ASCII digits, at least one, and nothing else. Leading zeros are
allowed and the length is not limited; callers compare the value with their own range.
-/

namespace IniSettings.Text.Decimal

def isDigit (c : Char) : Bool :=
  '0' ≤ c && c ≤ '9'

def digitValue (c : Char) : Nat :=
  c.toNat - '0'.toNat

/-- The number that the digits spell after those that gave `value`. -/
def valueFrom (value : Nat) (digits : List Char) : Nat :=
  digits.foldl (fun value c => value * 10 + digitValue c) value

def parse? (text : List Char) : Option Nat :=
  if text.isEmpty || !text.all isDigit then none
  else some (valueFrom 0 text)

/-- Reads on after digits that gave `value`, as long as the number stays below `bound`. -/
def readBelow {bound : Nat} (value : Fin bound) : List Char → Option (Fin bound)
  | [] => some value
  | c :: rest =>
    if isDigit c then
      if fits : value * 10 + digitValue c < bound then readBelow ⟨_, fits⟩ rest else none
    else none

/-- The number below `bound` that a text of digits spells. The digits after one that makes the
number too large do not matter. -/
def parseBelow? (bound : Nat) (text : List Char) : Option (Fin bound) :=
  if text.isEmpty then none
  else if positive : 0 < bound then readBelow ⟨0, positive⟩ text
  else none

theorem valueFrom_nil (value : Nat) : valueFrom value [] = value := rfl

theorem valueFrom_cons (value : Nat) (c : Char) (rest : List Char) :
    valueFrom value (c :: rest) = valueFrom (value * 10 + digitValue c) rest :=
  List.foldl_cons ..

theorem le_valueFrom (value : Nat) (text : List Char) : value ≤ valueFrom value text := by
  induction text generalizing value with
  | nil => exact Nat.le_of_eq (valueFrom_nil value).symm
  | cons c rest ih =>
    rw [valueFrom_cons]
    exact Nat.le_trans (Nat.le_trans (Nat.le_mul_of_pos_right value (by decide))
      (Nat.le_add_right _ _)) (ih _)

theorem readBelow_eq {bound : Nat} (value : Fin bound) (text : List Char) :
    readBelow value text =
      if fits : text.all isDigit = true ∧ valueFrom value text < bound then some ⟨_, fits.2⟩
      else none := by
  induction text generalizing value with
  | nil => simp [readBelow, valueFrom_nil]
  | cons c rest ih =>
    have grows := le_valueFrom (value * 10 + digitValue c) rest
    by_cases digit : isDigit c = true
    · by_cases fits : value * 10 + digitValue c < bound
      · simp [readBelow, valueFrom_cons, digit, fits, ih]
      · have large : ¬ valueFrom (value * 10 + digitValue c) rest < bound :=
          fun small => fits (Nat.lt_of_le_of_lt grows small)
        simp [readBelow, valueFrom_cons, digit, fits, large]
    · simp [readBelow, digit]

/-- A number below a bound is a number that is compared with the bound. -/
theorem parseBelow?_eq (bound : Nat) (text : List Char) :
    parseBelow? bound text =
      (parse? text).bind fun n => if fits : n < bound then some ⟨n, fits⟩ else none := by
  by_cases positive : 0 < bound
  · cases text with
    | nil => rfl
    | cons c rest =>
      by_cases digits : (c :: rest).all isDigit = true
      · simp [parseBelow?, parse?, positive, readBelow_eq, digits]
      · simp [parseBelow?, parse?, positive, readBelow_eq, digits]
  · have small : ∀ n, ¬ n < bound := by omega
    cases parse? text <;> simp [parseBelow?, positive, small]

end IniSettings.Text.Decimal
