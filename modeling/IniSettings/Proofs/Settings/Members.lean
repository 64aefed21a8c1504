import IniSettings.Proofs.Settings.ChangeSet
import Mathlib.Data.List.FinRange
import Mathlib.Data.List.Induction

/-!
# Sets of changed fields as finite sets

Whatever was inserted and cleared, the set is that of the places that were inserted since it was
last cleared. Its words hold one bit for each place and nothing but zeros after these, so to count
or to compare the words is to count or to compare the places.
-/

namespace IniSettings.ChangeSet

variable {size : Nat}

/-- A bit of some words, counted from the first of them on. After the last word there is none. -/
def bitOf (words : List UInt64) (number : Nat) : Bool :=
  words[number / 64]?.any fun word => word.toNat.testBit (number % 64)

def bit (set : ChangeSet size) (number : Nat) : Bool :=
  bitOf set.words.toList number

theorem bit_place (set : ChangeSet size) (place : Fin size) :
    set.bit place.val = set.contains place := by
  have there : set.words.toList[place.val / 64]? = some (set.word place) :=
    List.getElem?_eq_getElem _
  rw [bit, bitOf, there, contains_eq_testBit, Option.any_some]

theorem bit_empty (number : Nat) : (empty : ChangeSet size).bit number = false := by
  rw [bit, bitOf, empty, Vector.toList_replicate, List.getElem?_replicate]
  split
  next => exact Nat.zero_testBit _
  next => rfl

theorem bit_insert (set : ChangeSet size) (place : Fin size) (number : Nat) :
    ((set.insert place).2).bit number = (decide (place.val = number) || set.bit number) := by
  have words : ((set.insert place).2).words.toList =
      set.words.toList.set (place.val / 64) (set.word place ||| mask place.val) :=
    Vector.toList_set (word_lt place)
  have inside : place.val / 64 < set.words.toList.length := by
    rw [Vector.length_toList]
    exact word_lt place
  rw [bit, bitOf, words, List.getElem?_set, bit, bitOf]
  by_cases sameWord : place.val / 64 = number / 64
  · have there : set.words.toList[number / 64]? = some (set.word place) := by
      rw [← sameWord]
      exact List.getElem?_eq_getElem inside
    have sameBit : place.val % 64 = number % 64 ↔ place.val = number := by omega
    rw [if_pos sameWord, if_pos inside, there, Option.any_some, Option.any_some, UInt64.toNat_or,
      Nat.testBit_or, toNat_mask, Nat.testBit_two_pow, Bool.or_comm]
    simp only [sameBit]
  · have apart : place.val ≠ number := fun same => sameWord (same ▸ rfl)
    simp [sameWord, apart]

theorem insert_fst (set : ChangeSet size) (place : Fin size) :
    (set.insert place).1 = !set.contains place :=
  (Bool.not_not _).symm

def Bounded (set : ChangeSet size) : Prop :=
  ∀ number, set.bit number = true → number < size

theorem bounded_empty : (empty : ChangeSet size).Bounded := fun number isSet => by
  simp [bit_empty] at isSet

theorem Bounded.insert {set : ChangeSet size} (bounded : set.Bounded) (place : Fin size) :
    ((set.insert place).2).Bounded := by
  intro number isSet
  rw [bit_insert, Bool.or_eq_true, decide_eq_true_iff] at isSet
  rcases isSet with rfl | old
  · exact place.isLt
  · exact bounded number old

theorem Bounded.insertAll {set : ChangeSet size} (bounded : set.Bounded)
    (places : List (Fin size)) : (set.insertAll places).Bounded := by
  induction places generalizing set with
  | nil => exact bounded
  | cons place rest ih => exact ih (bounded.insert place)

theorem bit_eq_of_contains {set other : ChangeSet size} (bounded : set.Bounded)
    (alsoBounded : other.Bounded) (same : ∀ place, set.contains place = other.contains place)
    (number : Nat) : set.bit number = other.bit number := by
  by_cases inside : number < size
  · have places := same ⟨number, inside⟩
    rwa [← bit_place, ← bit_place] at places
  · have unset := Bool.eq_false_iff.2 fun isSet => inside (bounded number isSet)
    have alsoUnset := Bool.eq_false_iff.2 fun isSet => inside (alsoBounded number isSet)
    rw [unset, alsoUnset]

theorem eq_of_bitOf {words others : List UInt64} (length : words.length = others.length)
    (same : ∀ number, bitOf words number = bitOf others number) : words = others := by
  refine List.ext_getElem length fun index inside alsoInside => ?_
  refine UInt64.toNat_inj.1 (Nat.eq_of_testBit_eq fun bit => ?_)
  by_cases within : bit < 64
  · have bits := same (64 * index + bit)
    have place : (64 * index + bit) / 64 = index := by omega
    have offset : (64 * index + bit) % 64 = bit := by omega
    simpa [bitOf, place, offset, inside, alsoInside] using bits
  · have power : 2 ^ 64 ≤ 2 ^ bit := Nat.pow_le_pow_right (by decide) (Nat.le_of_not_lt within)
    rw [Nat.testBit_lt_two_pow (Nat.lt_of_lt_of_le words[index].toNat_lt power),
      Nat.testBit_lt_two_pow (Nat.lt_of_lt_of_le others[index].toNat_lt power)]

theorem Bounded.ext {set other : ChangeSet size} (bounded : set.Bounded)
    (alsoBounded : other.Bounded) (same : ∀ place, set.contains place = other.contains place) :
    set = other := by
  obtain ⟨words⟩ := set
  obtain ⟨others⟩ := other
  congr
  refine Vector.toList_inj.1 (eq_of_bitOf ?_ (bit_eq_of_contains bounded alsoBounded same))
  rw [Vector.length_toList, Vector.length_toList]

theorem Bounded.isEmpty_iff {set : ChangeSet size} (bounded : set.Bounded) :
    set.isEmpty = true ↔ ∀ place, set.contains place = false := by
  refine ⟨contains_of_isEmpty, fun absent => ?_⟩
  rw [bounded.ext bounded_empty fun place => (absent place).trans (contains_empty place).symm]
  exact isEmpty_empty

theorem popCount_eq (word : UInt64) :
    popCount word = (List.range 64).countP fun bit => word.toNat.testBit bit := by
  refine List.countP_congr fun bit member => ?_
  rw [and_mask_ne_zero, Nat.mod_eq_of_lt (List.mem_range.1 member)]

theorem foldl_popCount (words : List UInt64) (before : Nat) :
    words.foldl (fun count word => count + popCount word) before =
      before + (List.range (64 * words.length)).countP (bitOf words) := by
  induction words generalizing before with
  | nil => simp
  | cons word rest ih =>
    have first : (List.range 64).countP (bitOf (word :: rest)) = popCount word := by
      rw [popCount_eq]
      refine List.countP_congr fun bit member => ?_
      have within := List.mem_range.1 member
      simp [bitOf, Nat.div_eq_of_lt within, Nat.mod_eq_of_lt within]
    have others (number : Nat) : bitOf (word :: rest) (64 + number) = bitOf rest number := by
      simp [bitOf, Nat.add_div_left]
    rw [List.foldl_cons, ih, List.length_cons, Nat.mul_succ, Nat.add_comm (64 * rest.length) 64,
      List.range_add, List.countP_append, List.countP_map, first, Nat.add_assoc]
    simp only [Function.comp_def, others]

theorem length_toList (set : ChangeSet size) :
    set.toList.length = (List.range size).countP set.bit := by
  rw [toList, ← List.countP_eq_length_filter, ← List.map_coe_finRange_eq_range, List.countP_map]
  exact List.countP_congr fun place _ => by rw [Function.comp_apply, bit_place]

theorem Bounded.count_eq {set : ChangeSet size} (bounded : set.Bounded) :
    set.count = set.toList.length := by
  have fits : size ≤ 64 * wordCount size := by
    unfold wordCount
    omega
  obtain ⟨spare, total⟩ := Nat.exists_eq_add_of_le fits
  -- The last word has bits to spare, but none of them is set.
  have unset : (List.range spare).countP (set.bit ∘ fun number => size + number) = 0 :=
    List.countP_eq_zero.2 fun number _ isSet =>
      Nat.not_lt.2 (Nat.le_add_right size number) (bounded _ isSet)
  rw [count, foldl_popCount, Vector.length_toList, Nat.zero_add, total, List.range_add,
    List.countP_append, List.countP_map, length_toList]
  exact congrArg _ unset

theorem pairwise_toList (set : ChangeSet size) : set.toList.Pairwise (· < ·) :=
  (List.pairwise_lt_finRange size).filter _

theorem mem_toList_iff {set : ChangeSet size} {place : Fin size} :
    place ∈ set.toList ↔ set.contains place = true := by
  simp [toList]

/-- The place was inserted, and the set not cleared any more after that. -/
def Inserted (edits : List (Edit size)) (place : Fin size) : Prop :=
  ∃ before after, edits = before ++ .insert place :: after ∧ .clear ∉ after

theorem bounded_build (edits : List (Edit size)) : (build edits).Bounded := by
  induction edits using List.reverseRecOn with
  | nil => exact bounded_empty
  | append_singleton edits last ih =>
    rw [build, List.foldl_concat]
    cases last with
    | insert place => exact ih.insert place
    | clear => exact bounded_empty

theorem not_inserted_nil (place : Fin size) : ¬ Inserted [] place := by
  rintro ⟨before, after, split, -⟩
  simp at split

theorem inserted_concat_iff {edits : List (Edit size)} {last : Edit size} {place : Fin size} :
    Inserted (edits ++ [last]) place ↔
      last = .insert place ∨ last ≠ .clear ∧ Inserted edits place := by
  constructor
  · rintro ⟨before, after, split, kept⟩
    rcases List.eq_nil_or_concat after with rfl | ⟨more, other, rfl⟩
    · exact .inl (List.cons.inj (List.append_inj' split rfl).2).1
    · rw [List.concat_eq_append] at split kept
      rw [← List.cons_append, ← List.append_assoc] at split
      obtain ⟨rfl, same⟩ := List.append_inj' split rfl
      obtain rfl := (List.cons.inj same).1
      rw [List.mem_append, List.mem_singleton, not_or] at kept
      exact .inr ⟨Ne.symm kept.2, before, more, rfl, kept.1⟩
  · rintro (rfl | ⟨kept, before, after, rfl, later⟩)
    · exact ⟨edits, [], rfl, List.not_mem_nil⟩
    · exact ⟨before, after ++ [last], by simp, by simp [later, Ne.symm kept]⟩

theorem contains_build_iff {edits : List (Edit size)} {place : Fin size} :
    (build edits).contains place = true ↔ Inserted edits place := by
  induction edits using List.reverseRecOn with
  | nil => simp [build, not_inserted_nil]
  | append_singleton edits last ih =>
    rw [inserted_concat_iff, ← ih, build, List.foldl_concat, ← build]
    cases last with
    | insert other => simp [edit, contains_insert]
    | clear => simp [edit]

/-- Whatever was inserted and cleared, the set is the finite set of the places inserted since the
last clearing: by what an insertion answers, by membership, by its number, by its list in the order
of the places, by emptiness and by equality. Its words have a bit for every place, and no other
bit is set. -/
theorem build_exact (edits : List (Edit size)) :
    let set := build edits
    (∀ place, (set.insert place).1 = true ↔ ¬ Inserted edits place) ∧
    (∀ place, set.contains place = true ↔ Inserted edits place) ∧
    set.count = set.toList.length ∧
    set.toList.Pairwise (· < ·) ∧
    (∀ place, place ∈ set.toList ↔ Inserted edits place) ∧
    (set.isEmpty = true ↔ ∀ place, ¬ Inserted edits place) ∧
    (∀ others, set = build others ↔ ∀ place, Inserted edits place ↔ Inserted others place) ∧
    (∀ place : Fin size, place.val / 64 < set.words.toList.length) ∧
    ∀ number, set.bit number = true → number < size := by
  intro set
  have bounded : set.Bounded := bounded_build edits
  refine ⟨fun place => ?_, fun place => contains_build_iff, bounded.count_eq, set.pairwise_toList,
    fun place => mem_toList_iff.trans contains_build_iff, ?_, fun others => ?_, fun place => ?_,
    bounded⟩
  · rw [← contains_build_iff, insert_fst, Bool.not_eq_true', Bool.not_eq_true]
  · simp only [bounded.isEmpty_iff, ← contains_build_iff, Bool.not_eq_true]
    rfl
  · simp only [← contains_build_iff, ← Bool.eq_iff_iff]
    exact ⟨fun same place => congrArg (contains · place) same,
      bounded.ext (bounded_build others)⟩
  · rw [Vector.length_toList]
    exact word_lt place

end IniSettings.ChangeSet
