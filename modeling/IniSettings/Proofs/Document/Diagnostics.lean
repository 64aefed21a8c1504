import IniSettings.Proofs.Document.Rewording

/-!
# What is reported of a line

Each line is reported at most once, under its number. Whether it is depends on its form and on
whether a section is open where it stands. So the diagnostics of a text go up line by line, and
each of them was reported by the step of its own line.
-/

namespace IniSettings

/-- The line begins like a header, so it closes the open section. A line with one of the other
defects leaves all as it was. -/
def Defect.ofHeader : Defect → Bool
  | .unterminatedHeaderAtLineEnd | .unterminatedHeaderAtTextEnd => true
  | .emptySectionName | .junkAfterHeader => true
  | .expectedSectionBegin | .expectedAssignment | .expectedKey => false

namespace Line

def Form.Proper : Form → Prop
  | .badHeader defect => defect.ofHeader = true
  | .badPair defect => defect.ofHeader = false
  | _ => True

theorem proper_headerForm (text : List Char) (closed : Bool) : (headerForm text closed).Proper := by
  simp only [headerForm, List.span_eq_takeWhile_dropWhile]
  split
  next => cases closed <;> rfl
  next =>
    split
    next => rfl
    next => split <;> trivial

theorem proper_pairForm (text : List Char) : (pairForm text).Proper := by
  simp only [pairForm, List.span_eq_takeWhile_dropWhile]
  split
  next => rfl
  next => split <;> trivial

theorem proper_form (line : Line) : line.form.Proper := by
  unfold form
  split
  next => trivial
  next => exact proper_headerForm _ _
  next => exact proper_pairForm _

namespace State

variable {state : State} {line : Line} {defect : Defect}

def defect? (state : State) : Form → Option Defect
  | .blank => none
  | .header _ => none
  | .badHeader defect => some defect
  | .pair _ _ => if state.current.isSome then none else some .expectedSectionBegin
  | .badPair defect => some (if state.current.isSome then defect else .expectedSectionBegin)

theorem reported_step (state : State) (line : Line) :
    (state.step line).reported =
      ((state.defect? line.form).map (Diagnostic.mk state.line)).toList ++ state.reported := by
  obtain ⟨current, number, document, reported⟩ := state
  show (take _ line.form).reported = _
  cases line.form <;> cases current <;> rfl

theorem take_of_told (told : state.defect? line.form = some defect) :
    state.take line.form =
      { state.report defect with current := if defect.ofHeader then none else state.current } := by
  have proper := proper_form line
  obtain ⟨current, number, document, reported⟩ := state
  cases said : line.form with
  | blank => simp [said, defect?] at told
  | header name => simp [said, defect?] at told
  | badHeader found =>
    rw [said] at told proper
    obtain rfl := Option.some.inj told
    have ofHeader : found.ofHeader = true := proper
    simp [take, ofHeader]
  | pair key value =>
    rw [said] at told
    cases current with
    | none =>
      obtain rfl := Option.some.inj told
      rfl
    | some index => cases told
  | badPair found =>
    rw [said] at told proper
    obtain rfl := Option.some.inj told
    cases current with
    | none => rfl
    | some index =>
      have stray : found.ofHeader = false := proper
      simp [take, report, stray]

/-- What was reported stands under the numbers of lines that are read, the last line first. -/
structure Numbered (state : State) : Prop where
  positive : 0 < state.line
  falling : state.reported.Pairwise fun later earlier => earlier.line < later.line
  within : ∀ diagnostic ∈ state.reported, 0 < diagnostic.line ∧ diagnostic.line < state.line

theorem numbered_start : start.Numbered :=
  ⟨Nat.one_pos, List.Pairwise.nil, fun _ member => absurd member List.not_mem_nil⟩

theorem Numbered.step (numbered : state.Numbered) (line : Line) : (state.step line).Numbered := by
  have next : (state.step line).line = state.line + 1 := rfl
  have before : ∀ diagnostic ∈ state.reported,
      0 < diagnostic.line ∧ diagnostic.line < (state.step line).line := fun diagnostic member =>
    (numbered.within diagnostic member).imp_right fun less => less.trans (Nat.lt_succ_self _)
  cases told : state.defect? line.form with
  | none =>
    have same : (state.step line).reported = state.reported := by
      rw [reported_step, told]
      rfl
    refine ⟨Nat.succ_pos _, ?_, ?_⟩ <;> rw [same]
    · exact numbered.falling
    · exact before
  | some defect =>
    have more : (state.step line).reported = ⟨state.line, defect⟩ :: state.reported := by
      rw [reported_step, told]
      rfl
    refine ⟨Nat.succ_pos _, ?_, ?_⟩ <;> rw [more]
    · exact List.pairwise_cons.2
        ⟨fun earlier member => (numbered.within earlier member).2, numbered.falling⟩
    · intro diagnostic member
      rcases List.mem_cons.1 member with rfl | old
      · exact ⟨numbered.positive, Nat.lt_succ_self _⟩
      · exact before diagnostic old

theorem Numbered.foldl (numbered : state.Numbered) (lines : List Line) :
    (lines.foldl State.step state).Numbered := by
  induction lines generalizing state with
  | nil => exact numbered
  | cons line rest ih => exact ih (numbered.step line)

end State

variable {lines : List Line} {state other : State} {line another : Line}

theorem Meets.unique (meets : Meets lines state line) (also : Meets lines other another)
    (same : other.line = state.line) : other = state ∧ another = line := by
  obtain ⟨before, after, split, rfl⟩ := meets
  obtain ⟨earlier, later, splitAlso, rfl⟩ := also
  rw [State.line_foldl, State.line_foldl, Nat.add_left_cancel_iff] at same
  obtain ⟨rfl, rest⟩ := List.append_inj (splitAlso.symm.trans split) same
  exact ⟨rfl, (List.cons.inj rest).1⟩

theorem exists_meets_of_reported {diagnostic : Diagnostic}
    (member : diagnostic ∈ (lines.foldl State.step State.start).reported) :
    ∃ state line, Meets lines state line ∧ state.line = diagnostic.line ∧
      state.defect? line.form = some diagnostic.defect := by
  induction lines using List.reverseRecOn with
  | nil => exact absurd member List.not_mem_nil
  | append_singleton lines line ih =>
    rw [List.foldl_concat, State.reported_step, List.mem_append, Option.mem_toList,
      Option.map_eq_some_iff] at member
    rcases member with ⟨defect, told, rfl⟩ | old
    · exact ⟨_, line, meets_last lines line, rfl, told⟩
    · obtain ⟨state, earlier, meets, numbered⟩ := ih old
      exact ⟨state, earlier, meets.concat line, numbered⟩

end Line

namespace Document

/-- Each line of the text is reported at most once, and the lines in their order. -/
theorem diagnostics_scan (text : String) :
    (scan text).diagnostics.Pairwise (fun earlier later => earlier.line < later.line) ∧
      ∀ diagnostic ∈ (scan text).diagnostics,
        0 < diagnostic.line ∧ diagnostic.line ≤ (Line.split text.toList).length := by
  have numbered := Line.State.numbered_start.foldl (Line.split text.toList)
  have last := Line.State.line_foldl (Line.split text.toList) Line.State.start
  rw [scan_eq_foldl]
  refine ⟨List.pairwise_reverse.2 numbered.falling, fun diagnostic member => ?_⟩
  obtain ⟨positive, within⟩ := numbered.within diagnostic (List.mem_reverse.1 member)
  rw [last, Nat.add_comm] at within
  exact ⟨positive, Nat.le_of_lt_succ within⟩

end Document

end IniSettings
