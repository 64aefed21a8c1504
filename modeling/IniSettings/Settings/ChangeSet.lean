/-!
# Sets of changed fields

A set of places in a table, one bit for each, packed into words of 64 bits. The number of words is
fixed by the size of the table.
-/

namespace IniSettings

def wordCount (size : Nat) : Nat :=
  (size + 63) / 64

structure ChangeSet (size : Nat) where
  words : Vector UInt64 (wordCount size)
deriving DecidableEq

namespace ChangeSet

variable {size : Nat}

theorem word_lt (place : Fin size) : place.val / 64 < wordCount size := by
  have := place.isLt
  unfold wordCount
  omega

def mask (place : Nat) : UInt64 :=
  1 <<< UInt64.ofNat (place % 64)

def empty : ChangeSet size :=
  ⟨Vector.replicate (wordCount size) 0⟩

def contains (set : ChangeSet size) (place : Fin size) : Bool :=
  set.words.get ⟨place.val / 64, word_lt place⟩ &&& mask place.val != 0

/-- The set with that place, and whether the place is new in it. -/
def insert (set : ChangeSet size) (place : Fin size) : Bool × ChangeSet size :=
  let word := set.words.get ⟨place.val / 64, word_lt place⟩
  (word &&& mask place.val == 0,
    ⟨set.words.set (place.val / 64) (word ||| mask place.val) (word_lt place)⟩)

def popCount (word : UInt64) : Nat :=
  (List.range 64).countP fun bit => word &&& mask bit != 0

/-- The number of places in the set, counted by words. -/
def count (set : ChangeSet size) : Nat :=
  set.words.toList.foldl (fun count word => count + popCount word) 0

def isEmpty (set : ChangeSet size) : Bool :=
  set.words.toList.all (· == 0)

/-- The places in the set, in increasing order. -/
def toList (set : ChangeSet size) : List (Fin size) :=
  (List.finRange size).filter set.contains

def ofList (places : List (Fin size)) : ChangeSet size :=
  places.foldl (fun set place => (set.insert place).2) empty

inductive Edit (size : Nat) where
  | insert (place : Fin size)
  | clear
deriving DecidableEq

def edit (set : ChangeSet size) : Edit size → ChangeSet size
  | .insert place => (set.insert place).2
  | .clear => empty

/-- The set that a sequence of insertions and clearings makes. -/
def build (edits : List (Edit size)) : ChangeSet size :=
  edits.foldl edit empty

end ChangeSet

end IniSettings
