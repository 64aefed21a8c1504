import IniSettings.Settings.ChangeSet
import Mathlib.Data.Nat.Bitwise

/-!
# Sets of changed fields, place by place

A place is in the set exactly if its bit is set in its word. Inserting sets that bit alone, so the
words denote the set of the places that were inserted.
-/

namespace IniSettings.ChangeSet

variable {size : Nat}

def word (set : ChangeSet size) (place : Fin size) : UInt64 :=
  set.words.get ⟨place.val / 64, word_lt place⟩

theorem toNat_mask (place : Nat) : (mask place).toNat = 2 ^ (place % 64) := by
  have small : place % 64 < 64 := Nat.mod_lt _ (by decide)
  have fits : 2 ^ (place % 64) < 2 ^ 64 := Nat.pow_lt_pow_right (by decide) small
  have amount : (UInt64.ofNat (place % 64)).toNat = place % 64 :=
    UInt64.toNat_ofNat_of_lt' (Nat.lt_trans small (by decide))
  calc (mask place).toNat
      = 1 <<< (place % 64 % 64) % 2 ^ 64 := by
        rw [mask, UInt64.toNat_shiftLeft, amount]
        rfl
    _ = 2 ^ (place % 64) := by
        rw [Nat.mod_mod, Nat.one_shiftLeft, Nat.mod_eq_of_lt fits]

theorem and_mask_ne_zero (word : UInt64) (place : Nat) :
    (word &&& mask place != 0) = word.toNat.testBit (place % 64) := by
  have zero : word &&& mask place = 0 ↔ word.toNat.testBit (place % 64) = false := by
    rw [← UInt64.toNat_inj, UInt64.toNat_and, toNat_mask, Nat.and_two_pow]
    cases word.toNat.testBit (place % 64) <;> simp
  cases bit : word.toNat.testBit (place % 64) with
  | false => simpa using zero.2 bit
  | true =>
    have nonzero : word &&& mask place ≠ 0 := fun same => by simp [zero.1 same] at bit
    simpa using nonzero

theorem contains_eq_testBit (set : ChangeSet size) (place : Fin size) :
    set.contains place = (set.word place).toNat.testBit (place.val % 64) :=
  and_mask_ne_zero _ _

theorem word_insert (set : ChangeSet size) (place other : Fin size) :
    ((set.insert place).2).word other =
      if place.val / 64 = other.val / 64 then set.word place ||| mask place.val
      else set.word other := by
  exact Vector.getElem_set (word_lt place) (word_lt other)

@[simp] theorem contains_empty (place : Fin size) :
    (empty : ChangeSet size).contains place = false := by
  have zero : (empty : ChangeSet size).word place = 0 := Vector.getElem_replicate (word_lt place)
  rw [contains_eq_testBit, zero]
  exact Nat.zero_testBit _

theorem contains_insert (set : ChangeSet size) (place other : Fin size) :
    ((set.insert place).2).contains other = (decide (place = other) || set.contains other) := by
  rw [contains_eq_testBit, contains_eq_testBit, word_insert]
  split
  -- Two places of one word differ in their bits.
  next sameWord =>
    have sameBit : place.val % 64 = other.val % 64 ↔ place = other := by
      rw [Fin.ext_iff]
      omega
    have word : set.word place = set.word other := by
      simp only [ChangeSet.word, sameWord]
    rw [UInt64.toNat_or, Nat.testBit_or, toNat_mask, Nat.testBit_two_pow, word, Bool.or_comm]
    simp only [sameBit]
  next otherWord =>
    have apart : place ≠ other := fun same => otherWord (same ▸ rfl)
    simp [apart]

def insertAll (set : ChangeSet size) (places : List (Fin size)) : ChangeSet size :=
  places.foldl (fun set place => (set.insert place).2) set

theorem contains_insertAll (set : ChangeSet size) (places : List (Fin size)) (other : Fin size) :
    (set.insertAll places).contains other = (places.contains other || set.contains other) := by
  induction places generalizing set with
  | nil => simp [insertAll]
  | cons place rest ih =>
    have step : set.insertAll (place :: rest) = ((set.insert place).2).insertAll rest := rfl
    rw [step, ih, contains_insert, List.contains_cons]
    by_cases same : other = place
    · simp [same]
    · simp [beq_false_of_ne same, Ne.symm same]

theorem insertAll_append (set : ChangeSet size) (places more : List (Fin size)) :
    set.insertAll (places ++ more) = (set.insertAll places).insertAll more :=
  List.foldl_append

theorem contains_of_isEmpty {set : ChangeSet size} (isEmpty : set.isEmpty = true)
    (place : Fin size) : set.contains place = false := by
  have zero : set.word place = 0 := by
    have member : set.word place ∈ set.words.toList := by
      rw [Vector.mem_toList_iff]
      exact Vector.getElem_mem (word_lt place)
    simpa using List.all_eq_true.1 isEmpty _ member
  rw [contains_eq_testBit, zero]
  exact Nat.zero_testBit _

theorem eq_nil_of_isEmpty_insertAll {set : ChangeSet size} {places : List (Fin size)}
    (isEmpty : (set.insertAll places).isEmpty = true) : places = [] := by
  refine List.eq_nil_iff_forall_not_mem.2 fun place member => ?_
  have there := contains_insertAll set places place
  rw [contains_of_isEmpty isEmpty, List.contains_iff_mem.2 member] at there
  exact Bool.false_ne_true there

theorem isEmpty_empty : (empty : ChangeSet size).isEmpty = true := by
  simp [isEmpty, empty]

theorem isEmpty_insertAll_empty (places : List (Fin size)) :
    ((empty : ChangeSet size).insertAll places).isEmpty = places.isEmpty := by
  cases places with
  | nil => exact isEmpty_empty
  | cons place rest =>
    rw [List.isEmpty_cons, Bool.eq_false_iff]
    intro isEmpty
    exact List.cons_ne_nil place rest (eq_nil_of_isEmpty_insertAll isEmpty)

theorem toList_insertAll_empty (places : List (Fin size)) :
    ((empty : ChangeSet size).insertAll places).toList =
      (List.finRange size).filter places.contains := by
  refine List.filter_congr fun place _ => ?_
  rw [contains_insertAll, contains_empty, Bool.or_false]

end IniSettings.ChangeSet
