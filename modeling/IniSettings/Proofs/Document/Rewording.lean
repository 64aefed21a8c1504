import IniSettings.Proofs.Document.Refinement
import IniSettings.Proofs.Text.Pieces

/-!
# Texts whose lines are reworded

`Document.reword` changes the contents of the lines of a text and leaves their line feeds. What is
read of the new text is what the lines say with their new contents, as long as none of these breaks
its line. So two readings are compared line by line.
-/

namespace IniSettings

/-- The text with the content of each line changed, going by the number of the line. What follows
the last line feed is a line too, even if there is nothing. -/
def Document.reword (change : Nat → List Char → List Char) (text : String) : String :=
  let contents := (text.toList.splitOn '\n').mapIdx fun place content => change (place + 1) content
  String.ofList (['\n'].intercalate contents)

namespace Line

def ofContents : List (List Char) → List Line
  | [] => []
  | [content] => [⟨content, false⟩]
  | content :: next :: rest => ⟨content, true⟩ :: ofContents (next :: rest)

def reword (change : Nat → List Char → List Char) (lines : List Line) : List Line :=
  lines.mapIdx fun place line => { line with content := change (place + 1) line.content }

theorem ofContents_mapIdx (change : Nat → List Char → List Char) (contents : List (List Char)) :
    ofContents (contents.mapIdx fun place content => change (place + 1) content) =
      reword change (ofContents contents) := by
  induction contents using ofContents.induct generalizing change with
  | case1 => rfl
  | case2 content => rfl
  | case3 content next rest ih =>
    have others := ih fun number => change (number + 1)
    simp only [reword, List.mapIdx_cons] at others
    simp only [reword, List.mapIdx_cons, ofContents, others]

/-- A last line without content that `split` does not count makes no difference. -/
theorem reading_foldl_split {contents : List (List Char)}
    (inner : ∀ content ∈ contents, '\n' ∉ content) (state : State) :
    ((split (['\n'].intercalate contents)).foldl State.step state).reading =
      ((ofContents contents).foldl State.step state).reading := by
  induction contents using ofContents.induct generalizing state with
  | case1 => rfl
  | case2 content =>
    rw [List.intercalate_singleton]
    by_cases empty : content = []
    · -- Here `split` has one line less, a blank one, and that one only counts.
      subst empty
      rfl
    · have alone := split_append_lineEnd (inner content List.mem_cons_self) .textEnd
        (by rwa [List.append_nil])
      rw [List.append_nil] at alone
      rw [alone]
      rfl
  | case3 content next rest ih =>
    have joined : ['\n'].intercalate (content :: next :: rest) =
        content ++ '\n' :: ['\n'].intercalate (next :: rest) := by
      rw [List.intercalate_cons_cons, List.append_assoc]
      rfl
    rw [joined, split_append_lineEnd (inner content List.mem_cons_self) (.feed _) (by simp)]
    exact ih (fun other later => inner other (List.mem_cons_of_mem _ later)) _

theorem State.line_foldl (lines : List Line) (state : State) :
    (lines.foldl State.step state).line = state.line + lines.length := by
  induction lines generalizing state with
  | nil => rfl
  | cons line rest ih =>
    have next : (state.step line).line = state.line + 1 := rfl
    rw [List.foldl_cons, ih, next, List.length_cons]
    omega

def Meets (lines : List Line) (state : State) (line : Line) : Prop :=
  ∃ before after, lines = before ++ line :: after ∧ state = before.foldl State.step State.start

variable {lines : List Line} {state : State} {line : Line}

theorem Meets.concat (meets : Meets lines state line) (last : Line) :
    Meets (lines ++ [last]) state line := by
  obtain ⟨before, after, rfl, rfl⟩ := meets
  exact ⟨before, after ++ [last], by simp, rfl⟩

theorem meets_last (lines : List Line) (last : Line) :
    Meets (lines ++ [last]) (lines.foldl State.step State.start) last :=
  ⟨lines, [], rfl, rfl⟩

/-- If each step commutes with a view of the states when its line is reworded, so does the reading
of all lines. -/
theorem foldl_reword {change : Nat → List Char → List Char} {view : State → State}
    (starts : view State.start = State.start)
    (steps : ∀ state line, Meets lines state line →
      (view state).step { line with content := change state.line line.content } =
        view (state.step line)) :
    (reword change lines).foldl State.step State.start =
      view (lines.foldl State.step State.start) := by
  -- From the last line on, as the state in which a line is met comes from those before it.
  induction lines using List.reverseRecOn with
  | nil => exact starts.symm
  | append_singleton lines line ih =>
    have number : (lines.foldl State.step State.start).line = lines.length + 1 := by
      rw [State.line_foldl, Nat.add_comm]
      rfl
    have last := steps _ line (meets_last lines line)
    rw [number] at last
    rw [reword, List.mapIdx_concat, List.foldl_concat, List.foldl_concat, ← reword,
      ih fun state earlier meets => steps state earlier (meets.concat line)]
    exact last

end Line

namespace Document

def lines (text : String) : List Line :=
  Line.ofContents (text.toList.splitOn '\n')

theorem scan_ofList_intercalate {contents : List (List Char)}
    (inner : ∀ content ∈ contents, '\n' ∉ content) :
    scan (String.ofList (['\n'].intercalate contents)) =
      ((Line.ofContents contents).foldl Line.State.step Line.State.start).reading := by
  rw [scan_eq_foldl, String.toList_ofList]
  exact Line.reading_foldl_split inner _

theorem scan_eq_foldl_lines (text : String) :
    scan text = ((lines text).foldl Line.State.step Line.State.start).reading := by
  rw [lines, ← scan_ofList_intercalate fun _ member => Text.mark_not_mem member,
    List.intercalate_splitOn, String.ofList_toList]

theorem scan_reword {change : Nat → List Char → List Char}
    (inner : ∀ number content, '\n' ∉ content → '\n' ∉ change number content) {text : String}
    {view : Line.State → Line.State} (starts : view Line.State.start = Line.State.start)
    (steps : ∀ state line, Line.Meets (lines text) state line →
      (view state).step { line with content := change state.line line.content } =
        view (state.step line)) :
    scan (reword change text) =
      (view ((lines text).foldl Line.State.step Line.State.start)).reading := by
  rw [← Line.foldl_reword starts steps, lines, ← Line.ofContents_mapIdx]
  refine scan_ofList_intercalate fun content member => ?_
  obtain ⟨place, within, rfl⟩ := List.mem_mapIdx.1 member
  exact inner _ _ (Text.mark_not_mem (List.getElem_mem within))

end Document

end IniSettings
