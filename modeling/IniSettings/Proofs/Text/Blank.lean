import IniSettings.Text.Blank
import Mathlib.Data.List.DropRight

/-!
# Trimming

Skipping and trimming blanks on their own, and in front of the end of a line, which neither of
them passes.
-/

namespace IniSettings.Text

@[simp] theorem isBlank_feed : isBlank '\n' = false := by decide

theorem skipBlanks_suffix (text : List Char) : skipBlanks text <:+ text :=
  List.dropWhile_suffix _

theorem skipBlanks_cons_of_blank {c : Char} (blank : isBlank c = true) (text : List Char) :
    skipBlanks (c :: text) = skipBlanks text :=
  List.dropWhile_cons_of_pos blank

theorem isBlank_head_skipBlanks {text rest : List Char} {c : Char}
    (skipped : skipBlanks text = c :: rest) : isBlank c = false := by
  have unskipped := List.head?_dropWhile_not isBlank text
  rw [show text.dropWhile isBlank = c :: rest from skipped] at unskipped
  exact unskipped

theorem head?_skipBlanks (text : List Char) : (skipBlanks text).head?.any isBlank = false := by
  cases skipped : skipBlanks text with
  | nil => rfl
  | cons c rest => simpa using isBlank_head_skipBlanks skipped

theorem skipBlanks_eq_self {text : List Char} (start : text.head?.any isBlank = false) :
    skipBlanks text = text := by
  cases text with
  | nil => rfl
  | cons c rest => exact List.dropWhile_cons_of_neg (by simpa using start)

theorem isPrefix_trimEnd (text : List Char) : trimEnd text <+: text :=
  List.rdropWhile_prefix _ _

theorem mem_of_mem_trimEnd {c : Char} {text : List Char} (member : c ∈ trimEnd text) : c ∈ text :=
  (isPrefix_trimEnd text).subset member

theorem getLast?_trimEnd (text : List Char) : (trimEnd text).getLast?.any isBlank = false := by
  by_cases empty : trimEnd text = []
  · simp [empty]
  · have last : ¬ isBlank ((trimEnd text).getLast empty) = true :=
      List.rdropWhile_last_not isBlank text empty
    rw [List.getLast?_eq_some_getLast empty]
    simpa using last

theorem trimEnd_eq_self {text : List Char} (stop : text.getLast?.any isBlank = false) :
    trimEnd text = text := by
  refine List.rdropWhile_eq_self_iff.mpr fun nonempty => ?_
  rw [List.getLast?_eq_some_getLast nonempty] at stop
  simpa using stop

theorem head?_trimEnd {text : List Char} (nonempty : trimEnd text ≠ []) :
    (trimEnd text).head? = text.head? := by
  obtain ⟨rest, joined⟩ := isPrefix_trimEnd text
  conv_rhs => rw [← joined]
  exact (List.head?_append_of_ne_nil _ nonempty).symm

theorem isTrimmed_iff {text : List Char} :
    isTrimmed text = true ↔
      text.head?.any isBlank = false ∧ text.getLast?.any isBlank = false := by
  simp [isTrimmed]

theorem isTrimmed_of_forall {text : List Char} (solid : ∀ c ∈ text, isBlank c = false) :
    isTrimmed text = true := by
  refine isTrimmed_iff.2 ⟨?_, ?_⟩
  · cases start : text.head? with
    | none => rfl
    | some c => exact solid c (List.mem_of_head? start)
  · cases stop : text.getLast? with
    | none => rfl
    | some c => exact solid c (List.mem_of_getLast? stop)

theorem trim_eq_self {text : List Char} (trimmed : isTrimmed text = true) :
    trimEnd (skipBlanks text) = text := by
  obtain ⟨start, stop⟩ := isTrimmed_iff.1 trimmed
  rw [skipBlanks_eq_self start, trimEnd_eq_self stop]

theorem isTrimmed_trim (text : List Char) : isTrimmed (trimEnd (skipBlanks text)) = true := by
  refine isTrimmed_iff.2 ⟨?_, getLast?_trimEnd _⟩
  by_cases empty : trimEnd (skipBlanks text) = []
  · simp [empty]
  · rw [head?_trimEnd empty]
    exact head?_skipBlanks text

theorem mem_of_mem_trim {c : Char} {text : List Char}
    (member : c ∈ trimEnd (skipBlanks text)) : c ∈ text :=
  (skipBlanks_suffix text).subset (mem_of_mem_trimEnd member)

variable {blanks : List Char}

theorem skipBlanks_of_blanks (blank : ∀ c ∈ blanks, isBlank c = true) : skipBlanks blanks = [] :=
  List.dropWhile_eq_nil_iff.2 blank

theorem skipBlanks_blanks_append (blank : ∀ c ∈ blanks, isBlank c = true) (text : List Char) :
    skipBlanks (blanks ++ text) = skipBlanks text :=
  List.dropWhile_append_of_pos blank

theorem skipBlanks_append_blanks (blank : ∀ c ∈ blanks, isBlank c = true) (text : List Char) :
    skipBlanks (text ++ blanks) =
      if (skipBlanks text).isEmpty then [] else skipBlanks text ++ blanks := by
  show (text ++ blanks).dropWhile isBlank = _
  rw [List.dropWhile_append, ← skipBlanks, ← skipBlanks, skipBlanks_of_blanks blank]

theorem trimEnd_append_blanks (blank : ∀ c ∈ blanks, isBlank c = true) (text : List Char) :
    trimEnd (text ++ blanks) = trimEnd text := by
  have reversed : ∀ c ∈ blanks.reverse, isBlank c = true := fun c member =>
    blank c (List.mem_reverse.1 member)
  rw [trimEnd, List.reverse_append, List.dropWhile_append_of_pos reversed, trimEnd]

theorem trim_append_blanks (blank : ∀ c ∈ blanks, isBlank c = true) (text : List Char) :
    trimEnd (skipBlanks (text ++ blanks)) = trimEnd (skipBlanks text) := by
  rw [skipBlanks_append_blanks blank]
  split
  next nothing => rw [List.isEmpty_iff.1 nothing]
  next => exact trimEnd_append_blanks blank _

theorem dropWhile_append_blanks {mark : Char} (solid : isBlank mark = false)
    (blank : ∀ c ∈ blanks, isBlank c = true) (text : List Char) :
    (text ++ blanks).dropWhile (· != mark) =
      if (text.dropWhile (· != mark)).isEmpty then []
      else text.dropWhile (· != mark) ++ blanks := by
  have unmarked : blanks.dropWhile (· != mark) = [] :=
    List.dropWhile_eq_nil_iff.2 fun c member => by
      simpa using fun same : c = mark => by simp [← same, blank c member] at solid
  rw [List.dropWhile_append, unmarked]

theorem takeWhile_append_of_marked {mark : Char} {text : List Char}
    (marked : text.dropWhile (· != mark) ≠ []) (more : List Char) :
    (text ++ more).takeWhile (· != mark) = text.takeWhile (· != mark) := by
  have lengths := congrArg List.length
    (List.takeWhile_append_dropWhile (p := (· != mark)) (l := text))
  rw [List.length_append] at lengths
  have positive := List.length_pos_iff.2 marked
  rw [List.takeWhile_append, if_neg (by omega)]

/-- What can follow a line: nothing, or a line feed and more lines. -/
inductive IsLineEnd : List Char → Prop where
  | textEnd : IsLineEnd []
  | feed (rest : List Char) : IsLineEnd ('\n' :: rest)

theorem isLineEnd_dropWhile (text : List Char) : IsLineEnd (text.dropWhile (· != '\n')) := by
  induction text with
  | nil => exact .textEnd
  | cons c rest ih =>
    by_cases feed : c = '\n'
    · subst feed
      exact .feed rest
    · rwa [List.dropWhile_cons_of_pos (by simpa using feed)]

theorem dropWhile_append_lineEnd (stays : Char → Bool) (stops : stays '\n' = false)
    (text : List Char) {tail : List Char} (ending : IsLineEnd tail) :
    (text ++ tail).dropWhile stays = text.dropWhile stays ++ tail := by
  have unmoved : tail.dropWhile stays = tail := by
    cases ending with
    | textEnd => rfl
    | feed rest => simp [stops]
  rw [List.dropWhile_append]
  split
  next empty => simp [List.isEmpty_iff.1 empty, unmoved]
  next => rfl

theorem takeWhile_append_lineEnd (stays : Char → Bool) (stops : stays '\n' = false)
    (text : List Char) {tail : List Char} (ending : IsLineEnd tail) :
    (text ++ tail).takeWhile stays = text.takeWhile stays := by
  have unmoved : tail.takeWhile stays = [] := by
    cases ending with
    | textEnd => rfl
    | feed rest => simp [stops]
  have part : text.takeWhile stays <+: text := List.takeWhile_prefix stays
  rw [List.takeWhile_append]
  split
  next whole => simp [unmoved, part.eq_of_length whole]
  next => rfl

theorem dropWhile_ne_or_feed (mark : Char) {text : List Char} (inner : '\n' ∉ text) :
    text.dropWhile (fun c => c != mark && c != '\n') = text.dropWhile (· != mark) := by
  induction text with
  | nil => rfl
  | cons c rest ih =>
    rw [List.mem_cons, not_or] at inner
    simp [List.dropWhile_cons, Ne.symm inner.1, ih inner.2]

theorem takeWhile_ne_or_feed (mark : Char) {text : List Char} (inner : '\n' ∉ text) :
    text.takeWhile (fun c => c != mark && c != '\n') = text.takeWhile (· != mark) := by
  induction text with
  | nil => rfl
  | cons c rest ih =>
    rw [List.mem_cons, not_or] at inner
    simp [List.takeWhile_cons, Ne.symm inner.1, ih inner.2]

theorem skipBlanks_append_lineEnd (text : List Char) {tail : List Char}
    (ending : IsLineEnd tail) : skipBlanks (text ++ tail) = skipBlanks text ++ tail :=
  dropWhile_append_lineEnd isBlank isBlank_feed text ending

end IniSettings.Text
