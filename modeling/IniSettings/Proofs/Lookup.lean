import Mathlib.Data.List.Nodup

/-!
# Lists of pairs as maps

The pairs of a section and the files in memory are looked up by the library's `List.lookup`, which
sees the first pair of a key.
-/

namespace IniSettings

variable {α β : Type} [BEq α] [LawfulBEq α] {key : α} {value : β} {pairs : List (α × β)}

theorem lookup_cons_eq_if [DecidableEq α] (first : α × β) :
    (first :: pairs).lookup key = if key = first.1 then some first.2 else pairs.lookup key := by
  obtain ⟨other, value⟩ := first
  by_cases found : key = other
  · simp [found]
  · simp [found, List.lookup_cons, beq_false_of_ne found]

theorem mem_of_lookup (found : pairs.lookup key = some value) : (key, value) ∈ pairs := by
  obtain ⟨before, after, split, -⟩ := List.lookup_eq_some_iff.1 found
  simp [split]

theorem exists_lookup (member : key ∈ pairs.map Prod.fst) :
    ∃ value, pairs.lookup key = some value ∧ (key, value) ∈ pairs := by
  cases found : pairs.lookup key with
  | none =>
    obtain ⟨pair, there, rfl⟩ := List.mem_map.1 member
    simpa using List.lookup_eq_none_iff.1 found pair there
  | some value => exact ⟨value, rfl, mem_of_lookup found⟩

theorem lookup_of_mem (distinct : (pairs.map Prod.fst).Nodup) (member : (key, value) ∈ pairs) :
    pairs.lookup key = some value := by
  obtain ⟨found, got, there⟩ := exists_lookup (List.mem_map_of_mem member)
  have same := List.inj_on_of_nodup_map distinct there member rfl
  rw [got, (Prod.mk.inj same).2]

end IniSettings
