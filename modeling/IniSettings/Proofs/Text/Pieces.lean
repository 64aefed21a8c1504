/-!
# Pieces of a text

A text that is cut at a mark falls into pieces without that mark.
-/

namespace IniSettings.Text

theorem mark_not_mem {mark : Char} {text piece : List Char} (member : piece ∈ text.splitOn mark) :
    mark ∉ piece := by
  induction text generalizing piece with
  | nil => simp_all
  | cons c rest ih =>
    obtain ⟨first, more, split⟩ := List.exists_cons_of_ne_nil (List.splitOn_ne_nil mark rest)
    rw [List.splitOn_cons_eq_if_modifyHead, split] at member
    rw [split] at ih
    by_cases same : c = mark
    · rw [if_pos (by simpa using same)] at member
      rcases List.mem_cons.1 member with rfl | later
      · exact List.not_mem_nil
      · exact ih later
    · rw [if_neg (by simpa using same), List.modifyHead_cons] at member
      rcases List.mem_cons.1 member with rfl | later
      · simpa [Ne.symm same] using ih List.mem_cons_self
      · exact ih (List.mem_cons_of_mem _ later)

end IniSettings.Text
