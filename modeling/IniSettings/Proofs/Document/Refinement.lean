import IniSettings.Proofs.Document.Lines
import IniSettings.Proofs.Document.Progress

/-!
# The scanner follows the grammar of lines

At the begin of each line the scanner holds what the reading of lines holds at that line. It takes
the line in one to three steps, none of which looks past its end, and stands at the begin of the
next one then. So it reads what the lines say, one after another.
-/

namespace IniSettings.Line.State
open Text

def expectation (state : State) : Expectation :=
  match state.current with
  | none => .sectionBegin
  | some index => .assignment index

def scanner (state : State) (rest : List Char) : Scanner :=
  ⟨rest, state.line, state.expectation, state.document, state.reported⟩

def afterLine (state : State) (tail : List Char) : Scanner :=
  (state.scanner tail).skipLine tail

@[simp] theorem line_take (state : State) (form : Form) : (state.take form).line = state.line := by
  obtain ⟨current, line, document, reported⟩ := state
  cases form <;> cases current <;> rfl

theorem afterLine_feed (state : State) (content rest : List Char) :
    (state.take (form ⟨content, true⟩)).afterLine ('\n' :: rest) =
      (state.step ⟨content, true⟩).scanner rest := by
  show Scanner.mk rest ((state.take (form ⟨content, true⟩)).line + 1) _ _ _ = _
  rw [line_take]
  rfl

theorem skipLine_append (scanner : Scanner) {text tail : List Char} (inner : '\n' ∉ text)
    (ending : IsLineEnd tail) : scanner.skipLine (text ++ tail) = scanner.skipLine tail := by
  have passed : text.dropWhile (· != '\n') = [] :=
    List.dropWhile_eq_nil_iff.2 fun c member => by
      simpa using fun feed : c = '\n' => inner (feed ▸ member)
  have left := dropWhile_append_lineEnd (· != '\n') (by decide) text ending
  unfold Scanner.skipLine
  rw [left, passed]
  cases ending <;> rfl

theorem sectionName_eq (state : State) {text tail : List Char} (inner : '\n' ∉ text)
    (ending : IsLineEnd tail) :
    (Scanner.mk (text ++ tail) state.line .sectionName state.document state.reported).sectionName =
      (state.take (headerForm text (!tail.isEmpty))).afterLine tail := by
  simp only [Scanner.sectionName, Scanner.rest_expect, List.span_eq_takeWhile_dropWhile,
    dropWhile_append_lineEnd (fun c => c != ']' && c != '\n') (by decide) text ending,
    takeWhile_append_lineEnd (fun c => c != ']' && c != '\n') (by decide) text ending,
    dropWhile_ne_or_feed ']' inner, takeWhile_ne_or_feed ']' inner, headerForm]
  have stop := List.head?_dropWhile_not (· != ']') text
  have part := (List.dropWhile_suffix (· != ']') (l := text)).subset
  cases left : text.dropWhile (· != ']') with
  | nil => cases ending <;> rfl
  | cons c after =>
    rw [left] at stop part
    obtain rfl : c = ']' := by simpa using stop
    have innerAfter : '\n' ∉ after := fun member => inner (part (List.mem_cons_of_mem _ member))
    have innerBlanks : '\n' ∉ skipBlanks after :=
      fun member => innerAfter ((skipBlanks_suffix after).subset member)
    simp only [List.cons_append]
    by_cases empty : (trimEnd (text.takeWhile (· != ']'))).isEmpty = true
    · simp only [empty, if_true]
      exact skipLine_append _ innerAfter ending
    · simp only [empty, Bool.false_eq_true, if_false, skipBlanks_append_lineEnd after ending]
      cases junk : skipBlanks after with
      | nil => cases ending <;> rfl
      | cons d more =>
        rw [junk] at innerBlanks
        have notFeed : d ≠ '\n' := fun feed => innerBlanks (feed ▸ List.mem_cons_self)
        simp only [List.cons_append, List.isEmpty_cons, Bool.false_eq_true, if_false]
        split
        next same => cases same
        next same => exact absurd (List.cons.inj same).1 notFeed
        next => exact skipLine_append _ innerBlanks ending

theorem step_blank (state : State) {content tail : List Char} (skipped : skipBlanks content = [])
    (ending : IsLineEnd tail) (nonempty : content ++ tail ≠ []) :
    (state.scanner (content ++ tail)).step = some (state.afterLine tail) := by
  have left := skipBlanks_append_lineEnd content ending
  rw [skipped, List.nil_append] at left
  obtain ⟨current, line, document, reported⟩ := state
  cases current <;> cases ending <;>
    simp_all [scanner, expectation, Scanner.step, Scanner.sectionBegin, Scanner.assignment,
      Scanner.finish, afterLine, Scanner.skipLine, Scanner.moveTo, Scanner.nextLine]

theorem final_bracket (state : State) {content text tail : List Char}
    (skipped : skipBlanks content = '[' :: text) (ending : IsLineEnd tail) :
    (state.scanner (content ++ tail)).final =
      (Scanner.mk (text ++ tail) state.line .sectionName state.document state.reported).final := by
  have left := skipBlanks_append_lineEnd content ending
  rw [skipped, List.cons_append] at left
  obtain ⟨current, line, document, reported⟩ := state
  cases current with
  | none =>
    refine Scanner.final_of_step ?_
    simp only [scanner, expectation, Scanner.step, Scanner.sectionBegin, left]
    rfl
  | some index =>
    -- The bracket is found twice: as no pair, and then as the begin of a header.
    have again : skipBlanks ('[' :: (text ++ tail)) = '[' :: (text ++ tail) :=
      skipBlanks_eq_self rfl
    calc (scanner ⟨some index, line, document, reported⟩ (content ++ tail)).final =
        (Scanner.mk ('[' :: (text ++ tail)) line .sectionBegin document reported).final := by
          refine Scanner.final_of_step ?_
          simp only [scanner, expectation, Scanner.step, Scanner.assignment, left]
          rfl
      _ = (Scanner.mk (text ++ tail) line .sectionName document reported).final := by
          refine Scanner.final_of_step ?_
          simp only [Scanner.step, Scanner.sectionBegin, again]
          rfl

theorem step_stray (line : Nat) (document : Document) (reported : List Diagnostic)
    {content text tail : List Char} {c : Char} (inner : '\n' ∉ c :: text)
    (skipped : skipBlanks content = c :: text) (notBracket : c ≠ '[') (ending : IsLineEnd tail) :
    (scanner ⟨none, line, document, reported⟩ (content ++ tail)).step =
      some ((take ⟨none, line, document, reported⟩ (pairForm (c :: text))).afterLine tail) := by
  have left := skipBlanks_append_lineEnd content ending
  have notFeed : c ≠ '\n' := fun feed => inner (feed ▸ List.mem_cons_self)
  have rejected : take ⟨none, line, document, reported⟩ (pairForm (c :: text)) =
      report ⟨none, line, document, reported⟩ .expectedSectionBegin := by
    simp only [pairForm]
    split
    next => rfl
    next => split <;> rfl
  rw [skipped, List.cons_append] at left
  simp only [scanner, expectation, Scanner.step, Scanner.sectionBegin, left, rejected]
  split
  next same => cases same
  next same => exact absurd (List.cons.inj same).1 notFeed
  next same => exact absurd (List.cons.inj same).1 notBracket
  next => exact congrArg some (skipLine_append _ inner ending)

theorem step_pair (index line : Nat) (document : Document) (reported : List Diagnostic)
    {content text tail : List Char} {c : Char} (inner : '\n' ∉ c :: text)
    (skipped : skipBlanks content = c :: text) (notBracket : c ≠ '[') (ending : IsLineEnd tail) :
    (scanner ⟨some index, line, document, reported⟩ (content ++ tail)).step =
      some ((take ⟨some index, line, document, reported⟩ (pairForm (c :: text))).afterLine tail) := by
  have left := skipBlanks_append_lineEnd content ending
  have notFeed : c ≠ '\n' := fun feed => inner (feed ▸ List.mem_cons_self)
  rw [skipped] at left
  simp only [scanner, expectation, Scanner.step, Scanner.assignment, left]
  split
  next same => cases same
  next same => exact absurd (List.cons.inj same).1 notFeed
  next same => exact absurd (List.cons.inj same).1 notBracket
  next =>
    simp only [List.span_eq_takeWhile_dropWhile,
      dropWhile_append_lineEnd (fun c => c != '=' && c != '\n') (by decide) _ ending,
      takeWhile_append_lineEnd (fun c => c != '=' && c != '\n') (by decide) _ ending,
      dropWhile_ne_or_feed '=' inner, takeWhile_ne_or_feed '=' inner, pairForm]
    have stop := List.head?_dropWhile_not (· != '=') (c :: text)
    have part := (List.dropWhile_suffix (· != '=') (l := c :: text)).subset
    cases found : (c :: text).dropWhile (· != '=') with
    | nil => cases ending <;> rfl
    | cons d after =>
      rw [found] at stop part
      obtain rfl : d = '=' := by simpa using stop
      have innerAfter : '\n' ∉ after := fun member => inner (part (List.mem_cons_of_mem _ member))
      simp only [List.cons_append]
      by_cases empty : (trimEnd ((c :: text).takeWhile (· != '='))).isEmpty = true
      · simp only [empty, if_true]
        exact congrArg some (skipLine_append _ innerAfter ending)
      · have whole : (skipBlanks after).takeWhile (· != '\n') = skipBlanks after :=
          List.takeWhile_eq_self_iff.2 fun e member => by
            have := (skipBlanks_suffix after).subset member
            simpa using fun feed : e = '\n' => innerAfter (feed ▸ this)
        simp only [empty, Bool.false_eq_true, if_false, skipBlanks_append_lineEnd after ending,
          takeWhile_append_lineEnd (· != '\n') (by decide) _ ending, whole]
        exact congrArg some (skipLine_append _ innerAfter ending)

theorem step_other (state : State) {content text tail : List Char} {c : Char}
    (inner : '\n' ∉ c :: text) (skipped : skipBlanks content = c :: text) (notBracket : c ≠ '[')
    (ending : IsLineEnd tail) :
    (state.scanner (content ++ tail)).step =
      some ((state.take (pairForm (c :: text))).afterLine tail) := by
  obtain ⟨current, line, document, reported⟩ := state
  cases current with
  | none => exact step_stray line document reported inner skipped notBracket ending
  | some index => exact step_pair index line document reported inner skipped notBracket ending

/-- Whatever a line says, the scanner takes it as the grammar does and passes its end. -/
theorem final_line (state : State) {content tail : List Char} (inner : '\n' ∉ content)
    (ending : IsLineEnd tail) (nonempty : content ++ tail ≠ []) :
    (state.scanner (content ++ tail)).final =
      ((state.take (form ⟨content, !tail.isEmpty⟩)).afterLine tail).final := by
  let line : Line := ⟨content, !tail.isEmpty⟩
  cases skipped : skipBlanks line.content with
  | nil =>
    rw [Scanner.final_of_step (state.step_blank skipped ending nonempty), form_blank skipped]
    rfl
  | cons c text =>
    have innerText : '\n' ∉ c :: text := fun member =>
      inner ((skipBlanks_suffix content).subset (skipped ▸ member))
    by_cases bracket : c = '['
    · subst bracket
      rw [state.final_bracket skipped ending, Scanner.final_of_step rfl,
        state.sectionName_eq (fun member => innerText (List.mem_cons_of_mem _ member)) ending,
        form_bracket skipped]
    · rw [Scanner.final_of_step (state.step_other innerText skipped bracket ending),
        form_other skipped bracket]

theorem reading_final (state : State) (text : List Char) :
    (state.scanner text).final.reading = ((split text).foldl step state).reading := by
  induction text using inductionOn generalizing state with
  | nil =>
    have halted : (state.scanner []).step = none := by
      obtain ⟨current, line, document, reported⟩ := state
      cases current <;> rfl
    rw [Scanner.final_of_halt halted]
    rfl
  | line content tail inner ending nonempty ih =>
    rw [state.final_line inner ending nonempty, split_append_lineEnd inner ending nonempty,
      List.foldl_cons]
    cases ending with
    | textEnd => exact ih (state.take _)
    | feed rest =>
      rw [List.isEmpty_cons, Bool.not_false, afterLine_feed]
      exact ih (state.step ⟨content, true⟩)

end IniSettings.Line.State

namespace IniSettings.Document

theorem scan_eq_foldl (text : String) :
    scan text = ((Line.split text.toList).foldl Line.State.step Line.State.start).reading :=
  Line.State.reading_final Line.State.start text.toList

/-- The cursor machine reads exactly what the grammar of lines reads. -/
theorem scan_eq_readLines (text : String) : scan text = readLines text :=
  Line.State.reading_final Line.State.start text.toList

end IniSettings.Document
