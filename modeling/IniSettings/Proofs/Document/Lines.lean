import IniSettings.Document.Grammar
import IniSettings.Proofs.Text.Blank

/-!
# The lines of a text

`Line.split` cuts a text at its line feeds and at nothing else: the lines hold no line feed of
their own. `Line.inductionOn` is induction over a text line by line.
-/

namespace IniSettings.Line
open Text

@[simp] theorem split_nil : split [] = [] := rfl

@[simp] theorem split_feed_cons (rest : List Char) :
    split ('\n' :: rest) = ⟨[], true⟩ :: split rest := rfl

theorem split_cons {c : Char} (inner : c ≠ '\n') (rest : List Char) :
    split (c :: rest) = extend c (split rest) := by
  rw [split]
  exact inner

theorem split_append_lineEnd {content tail : List Char} (inner : '\n' ∉ content)
    (ending : IsLineEnd tail) (nonempty : content ++ tail ≠ []) :
    split (content ++ tail) = ⟨content, !tail.isEmpty⟩ :: split tail.tail := by
  induction content with
  | nil =>
    cases ending with
    | textEnd => simp at nonempty
    | feed rest => simp
  | cons c content ih =>
    rw [List.mem_cons, not_or] at inner
    rw [List.cons_append, split_cons (Ne.symm inner.1)]
    by_cases empty : content ++ tail = []
    · obtain ⟨rfl, rfl⟩ := List.append_eq_nil_iff.1 empty
      rfl
    · rw [ih inner.2 empty]
      rfl

@[elab_as_elim]
theorem inductionOn {motive : List Char → Prop} (text : List Char) (nil : motive [])
    (line : ∀ content tail, '\n' ∉ content → IsLineEnd tail → content ++ tail ≠ [] →
      motive tail.tail → motive (content ++ tail)) : motive text := by
  induction size : text.length using Nat.strongRecOn generalizing text with
  | ind size ih =>
    subst size
    by_cases empty : text = []
    · exact empty ▸ nil
    · let content := text.takeWhile (· != '\n')
      let tail := text.dropWhile (· != '\n')
      have joined : content ++ tail = text := List.takeWhile_append_dropWhile
      have inner : '\n' ∉ content := fun member => by
        simpa using List.mem_takeWhile_imp member
      have ending : IsLineEnd tail := isLineEnd_dropWhile text
      have shorter : tail.tail.length < text.length := by
        have positive : 0 < text.length := List.length_pos_iff.2 empty
        have lengths := congrArg List.length joined
        simp only [List.length_append] at lengths
        rw [List.length_tail]
        omega
      rw [← joined]
      exact line content tail inner ending (joined ▸ empty) (ih _ shorter _ rfl)

theorem feed_not_mem_of_mem_split {line : Line} {text : List Char} (member : line ∈ split text) :
    '\n' ∉ line.content := by
  induction text using inductionOn with
  | nil => simp at member
  | line content tail inner ending nonempty ih =>
    rw [split_append_lineEnd inner ending nonempty, List.mem_cons] at member
    rcases member with rfl | later
    · exact inner
    · exact ih later

theorem split_flatMap_closed {contents : List (List Char)}
    (inner : ∀ content ∈ contents, '\n' ∉ content) (rest : List Char) :
    split (contents.flatMap (· ++ ['\n']) ++ rest) = contents.map (⟨·, true⟩) ++ split rest := by
  induction contents with
  | nil => rfl
  | cons content contents ih =>
    have first : '\n' ∉ content := inner content List.mem_cons_self
    have others : ∀ content ∈ contents, '\n' ∉ content :=
      fun content later => inner content (List.mem_cons_of_mem _ later)
    simp only [List.flatMap_cons, List.append_assoc, List.map_cons, List.cons_append]
    rw [split_append_lineEnd first (.feed _) (by simp)]
    simp [ih others]

theorem form_blank {line : Line} (skipped : skipBlanks line.content = []) : line.form = .blank := by
  simp only [form, skipped]

theorem form_bracket {line : Line} {text : List Char}
    (skipped : skipBlanks line.content = '[' :: text) :
    line.form = headerForm text line.closed := by
  simp only [form, skipped]

theorem form_other {line : Line} {text : List Char} {c : Char}
    (skipped : skipBlanks line.content = c :: text) (notBracket : c ≠ '[') :
    line.form = pairForm (c :: text) := by
  simp only [form, skipped]
  split
  next same => cases same
  next same => exact absurd (List.cons.inj same).1 notBracket
  next => rfl

end IniSettings.Line
