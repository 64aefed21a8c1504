import IniSettings.Text.Quoted

/-!
# Quoted text stands on one line

Whatever a text holds, quoted it holds no line feed.
-/

namespace IniSettings.Text

theorem feed_not_mem_hexDigits (n : Nat) : '\n' ∉ hexDigits n := by
  induction n using Nat.strongRecOn with
  | ind n ih =>
    rw [hexDigits, Nat.toDigits_eq_if (by decide)]
    have digit (k : Nat) : '\n' ≠ Nat.digitChar k := (Nat.digitChar_ne '\n' (by decide)).symm
    split
    next => simp [digit]
    next large =>
      have before : '\n' ∉ Nat.toDigits 16 (n / 16) := ih (n / 16) (by omega)
      simpa [digit] using before

theorem feed_not_mem_quotedChar (c : Char) : '\n' ∉ quotedChar c := by
  unfold quotedChar
  split
  case h_7 _ _ feed _ _ =>
    split
    next => simpa using Ne.symm feed
    next => simp [feed_not_mem_hexDigits]
  all_goals decide

theorem feed_not_mem_quoted (text : String) : '\n' ∉ (quoted text).toList := by
  intro member
  simp only [quoted, String.toList_ofList, List.mem_append, List.mem_cons, List.mem_flatMap,
    List.not_mem_nil, or_false] at member
  rcases member with (start | ⟨c, -, inside⟩) | stop
  · exact absurd start (by decide)
  · exact feed_not_mem_quotedChar c inside
  · exact absurd stop (by decide)

end IniSettings.Text
