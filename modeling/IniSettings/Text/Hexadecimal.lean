/-!
# Digits of base sixteen

Numbers are written with digits in lower case and read with digits in either case.
-/

namespace IniSettings.Text

def hexDigits (n : Nat) : List Char :=
  Nat.toDigits 16 n

def hexValue? (c : Char) : Option Nat :=
  if '0' ≤ c ∧ c ≤ '9' then some (c.toNat - '0'.toNat)
  else if 'a' ≤ c ∧ c ≤ 'f' then some (c.toNat - 'a'.toNat + 10)
  else if 'A' ≤ c ∧ c ≤ 'F' then some (c.toNat - 'A'.toNat + 10)
  else none

end IniSettings.Text
