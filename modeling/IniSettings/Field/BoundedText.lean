/-!
# Texts of bounded size

A text of at most `capacity` bytes. A longer text is cut at the last character boundary that the
capacity admits, so what is left is a text again.
-/

namespace IniSettings

def byteLength : List Char → Nat
  | [] => 0
  | c :: rest => c.utf8Size + byteLength rest

def headOfSize? : (text : List Char) → (size : Nat) → Option (List Char)
  | _, 0 => some []
  | [], _ + 1 => none
  | c :: rest, size =>
    if c.utf8Size ≤ size then (headOfSize? rest (size - c.utf8Size)).map (c :: ·) else none

/-- Steps back from `size` to the nearest character boundary. -/
def cutBack (text : List Char) : (size : Nat) → List Char
  | 0 => []
  | size + 1 => (headOfSize? text (size + 1)).getD (cutBack text size)

def truncate (capacity : Nat) (text : List Char) : List Char :=
  cutBack text (min (byteLength text) capacity)

theorem byteLength_headOfSize? {text head : List Char} {size : Nat}
    (found : headOfSize? text size = some head) : byteLength head = size := by
  fun_induction headOfSize? text size generalizing head with
  | case1 => simp_all [byteLength]
  | case2 => simp at found
  | case3 c rest size _ fits ih =>
    obtain ⟨inner, inside, rfl⟩ := Option.map_eq_some_iff.1 found
    have := ih inside
    simp only [byteLength]
    omega
  | case4 => simp at found

theorem byteLength_cutBack_le (text : List Char) (size : Nat) :
    byteLength (cutBack text size) ≤ size := by
  induction size with
  | zero => simp [cutBack, byteLength]
  | succ size ih =>
    unfold cutBack
    cases found : headOfSize? text (size + 1) with
    | none => simpa using Nat.le_succ_of_le ih
    | some head => simp [byteLength_headOfSize? found]

theorem byteLength_truncate_le (capacity : Nat) (text : List Char) :
    byteLength (truncate capacity text) ≤ capacity :=
  Nat.le_trans (byteLength_cutBack_le text _) (Nat.min_le_right _ _)

structure BoundedText (capacity : Nat) where
  text : String
  fits : byteLength text.toList ≤ capacity
deriving DecidableEq

namespace BoundedText

variable {capacity : Nat}

def empty : BoundedText capacity :=
  ⟨"", by simp [byteLength]⟩

/-- The longest beginning of the text that fits. -/
def truncated (text : String) : BoundedText capacity :=
  ⟨String.ofList (truncate capacity text.toList), by
    rw [String.toList_ofList]
    exact byteLength_truncate_le capacity text.toList⟩

/-- The text, if all of it fits. -/
def ofText? (text : String) : Option (BoundedText capacity) :=
  if fits : byteLength text.toList ≤ capacity then some ⟨text, fits⟩ else none

end BoundedText

end IniSettings
