/-!
# Ranges of characters

A class of characters as a table of ranges of code points, in increasing order, and the search in
it.
-/

namespace IniSettings.Text

abbrev Ranges := Array (Nat × Nat)

namespace Ranges

/-- Searches the ranges from number `first` on, of which `count` are left. -/
def search (ranges : Ranges) (point : Nat) : (fuel first count : Nat) → Bool
  | 0, _, _ => false
  | fuel + 1, first, count =>
    if count = 0 then false
    else
      let middle := first + count / 2
      match ranges[middle]? with
      | none => false
      | some (low, high) =>
        if point < low then search ranges point fuel first (count / 2)
        else if high < point then
          search ranges point fuel (middle + 1) (count - count / 2 - 1)
        else true

def contains (ranges : Ranges) (point : Nat) : Bool :=
  search ranges point ranges.size 0 ranges.size

end Ranges

end IniSettings.Text
