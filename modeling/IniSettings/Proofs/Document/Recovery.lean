import IniSettings.Proofs.Document.Diagnostics

/-!
# Malformed lines and their neighbours

A line with a defect does nothing but to be reported and, if it begins like a header, to close the
open section. So a reading goes on after it as after a blank line or after an empty header: the
reading of the text that has one of these in its place is the same but for what is reported of
that line.
-/

namespace IniSettings

namespace Line.State

def amended (amend : Diagnostic → Option Diagnostic) (state : State) : State :=
  { state with reported := state.reported.filterMap amend }

variable {amend : Diagnostic → Option Diagnostic} {state : State} {line : Line} {defect : Defect}

theorem reading_amended (amend : Diagnostic → Option Diagnostic) (state : State) :
    (state.amended amend).reading =
      ⟨state.reading.document, state.reading.diagnostics.filterMap amend⟩ := by
  simp only [reading, amended, List.filterMap_reverse]

theorem step_amended_of_kept
    (kept : ∀ defect, amend ⟨state.line, defect⟩ = some ⟨state.line, defect⟩) :
    (state.amended amend).step line = (state.step line).amended amend := by
  obtain ⟨current, number, document, reported⟩ := state
  simp only [step]
  cases line.form <;> cases current <;>
    simp [amended, take, report, List.filterMap_cons_some (kept _)]

/-- A line that is out of place leaves what a blank line leaves, apart from its report. -/
theorem step_amended_of_stray (told : state.defect? line.form = some defect)
    (stray : defect.ofHeader = false) (dropped : amend ⟨state.line, defect⟩ = none)
    (closed : Bool) :
    (state.amended amend).step ⟨[], closed⟩ = (state.step line).amended amend := by
  rw [step, step, take_of_told told]
  simp [amended, report, List.filterMap_cons_none dropped, take, form, Text.skipBlanks, stray]

theorem step_amended_of_badHeader (told : state.defect? line.form = some defect)
    (ofHeader : defect.ofHeader = true)
    (recast : amend ⟨state.line, defect⟩ = some ⟨state.line, .emptySectionName⟩)
    (closed : Bool) :
    (state.amended amend).step ⟨['[', ']'], closed⟩ = (state.step line).amended amend := by
  have empty : form ⟨['[', ']'], closed⟩ = .badHeader .emptySectionName := rfl
  rw [step, step, take_of_told told, empty]
  simp [amended, report, List.filterMap_cons_some recast, take, ofHeader]

end Line.State

namespace Document
open Line

variable {change : Nat → List Char → List Char} {amend : Diagnostic → Option Diagnostic}

theorem scan_reword_amended
    (inner : ∀ number content, '\n' ∉ content → '\n' ∉ change number content) {text : String}
    (amends : ∀ state line, Meets (lines text) state line →
      (state.amended amend).step { line with content := change state.line line.content } =
        (state.step line).amended amend) :
    scan (reword change text) =
      ⟨(scan text).document, (scan text).diagnostics.filterMap amend⟩ := by
  rw [scan_reword inner rfl amends, State.reading_amended, ← scan_eq_foldl_lines]

theorem told_of_reported {text : String} {state : State} {line : Line} {defect : Defect}
    (meets : Meets (lines text) state line)
    (member : ⟨state.line, defect⟩ ∈ (scan text).diagnostics) :
    state.defect? line.form = some defect := by
  rw [scan_eq_foldl_lines, State.reading, List.mem_reverse] at member
  obtain ⟨other, another, also, same, told⟩ := exists_meets_of_reported member
  obtain ⟨rfl, rfl⟩ := meets.unique also same
  exact told

theorem scan_emptied {text : String} {chosen : List Nat}
    (stray : ∀ number ∈ chosen, ∃ defect : Defect, defect.ofHeader = false ∧
      ⟨number, defect⟩ ∈ (scan text).diagnostics) :
    scan (reword (fun number content => if number ∈ chosen then [] else content) text) =
      ⟨(scan text).document,
        (scan text).diagnostics.filter fun diagnostic => diagnostic.line ∉ chosen⟩ := by
  rw [← List.filterMap_eq_filter]
  refine scan_reword_amended (fun number content inner => ?_) fun state line meets => ?_
  · split
    next => exact List.not_mem_nil
    next => exact inner
  · by_cases member : state.line ∈ chosen
    · obtain ⟨defect, ofHeader, reported⟩ := stray state.line member
      rw [if_pos member]
      exact State.step_amended_of_stray (told_of_reported meets reported) ofHeader
        (by simp [Option.guard, member]) line.closed
    · rw [if_neg member]
      exact State.step_amended_of_kept fun defect => by simp [Option.guard, member]

theorem scan_bracketed {text : String} {number : Nat} {defect : Defect}
    (ofHeader : defect.ofHeader = true) (reported : ⟨number, defect⟩ ∈ (scan text).diagnostics) :
    scan (reword (fun other content => if other = number then ['[', ']'] else content) text) =
      ⟨(scan text).document, (scan text).diagnostics.map fun diagnostic =>
        if diagnostic.line = number then ⟨number, .emptySectionName⟩ else diagnostic⟩ := by
  rw [← List.filterMap_eq_map]
  refine scan_reword_amended (fun other content inner => ?_) fun state line meets => ?_
  · split
    next => decide
    next => exact inner
  · by_cases here : state.line = number
    · subst here
      rw [if_pos rfl]
      exact State.step_amended_of_badHeader (told_of_reported meets reported) ofHeader
        (by simp) line.closed
    · rw [if_neg here]
      exact State.step_amended_of_kept fun defect => by simp [here]

/-- A malformed line changes nothing of what is read of the others. Any lines that were reported
for another reason than a bad header may be emptied: the document is the same, and so are the
diagnostics but for those of these lines. A line that was reported as a bad header may be replaced
by an empty header: the document is the same, and so are the diagnostics but for the defect of that
line. Each line is reported at most once, and the lines in their order. -/
theorem scan_recovers (text : String) :
    (∀ chosen : List Nat,
      (∀ number ∈ chosen, ∃ defect : Defect, defect.ofHeader = false ∧
        ⟨number, defect⟩ ∈ (scan text).diagnostics) →
      scan (reword (fun number content => if number ∈ chosen then [] else content) text) =
        ⟨(scan text).document,
          (scan text).diagnostics.filter fun diagnostic => diagnostic.line ∉ chosen⟩) ∧
    (∀ (number : Nat) (defect : Defect), defect.ofHeader = true →
      ⟨number, defect⟩ ∈ (scan text).diagnostics →
      scan (reword (fun other content => if other = number then ['[', ']'] else content) text) =
        ⟨(scan text).document, (scan text).diagnostics.map fun diagnostic =>
          if diagnostic.line = number then ⟨number, .emptySectionName⟩ else diagnostic⟩) ∧
    (scan text).diagnostics.Pairwise (fun earlier later => earlier.line < later.line) ∧
    ∀ diagnostic ∈ (scan text).diagnostics,
      0 < diagnostic.line ∧ diagnostic.line ≤ (Line.split text.toList).length :=
  ⟨fun _ stray => scan_emptied stray, fun _ _ ofHeader reported => scan_bracketed ofHeader reported,
    diagnostics_scan text⟩

def torn : String :=
  "[a]\ntorn\nk = v\n[b\nlost"

theorem scan_recovers_torn :
    (scan torn).diagnostics =
      [⟨2, .expectedAssignment⟩, ⟨4, .unterminatedHeaderAtLineEnd⟩, ⟨5, .expectedSectionBegin⟩] ∧
    scan "[a]\n\nk = v\n[b\n" =
      ⟨(scan torn).document, [⟨4, .unterminatedHeaderAtLineEnd⟩]⟩ ∧
    scan "[a]\ntorn\nk = v\n[]\nlost" =
      ⟨(scan torn).document,
        [⟨2, .expectedAssignment⟩, ⟨4, .emptySectionName⟩, ⟨5, .expectedSectionBegin⟩]⟩ := by
  have told : (scan torn).diagnostics =
      [⟨2, .expectedAssignment⟩, ⟨4, .unterminatedHeaderAtLineEnd⟩,
        ⟨5, .expectedSectionBegin⟩] := by
    decide +kernel
  obtain ⟨emptied, bracketed, -, -⟩ := scan_recovers torn
  have stray : ∀ number ∈ [2, 5], ∃ defect : Defect, defect.ofHeader = false ∧
      ⟨number, defect⟩ ∈ (scan torn).diagnostics := by
    rw [told]
    simp [Defect.ofHeader]
  refine ⟨told, ?_, ?_⟩
  · have same := emptied [2, 5] stray
    rw [told] at same
    exact same
  · have same := bracketed 4 .unterminatedHeaderAtLineEnd rfl (by simp [told])
    rw [told] at same
    exact same

end Document

end IniSettings
