import IniSettings.Proofs.Document.Rewording

/-!
# Blanks at the ends of lines

Whatever a line is, it has the form that it has without the blanks at its two ends. So texts that
differ in these blanks alone are read alike, line by line, and so is a text whose lines all end in
a carriage return and a line feed.
-/

namespace IniSettings
open Text

namespace Line

variable {blanks : List Char}

theorem headerForm_append_blanks (blank : ∀ c ∈ blanks, isBlank c = true) (text : List Char)
    (closed : Bool) : headerForm (text ++ blanks) closed = headerForm text closed := by
  simp only [headerForm, List.span_eq_takeWhile_dropWhile,
    dropWhile_append_blanks (show isBlank ']' = false by decide) blank]
  cases left : text.dropWhile (· != ']') with
  | nil => rfl
  | cons mark rest =>
    have junk : (skipBlanks (rest ++ blanks)).isEmpty = (skipBlanks rest).isEmpty := by
      rw [skipBlanks_append_blanks blank]
      cases skipBlanks rest <;> rfl
    simp [takeWhile_append_of_marked (left ▸ List.cons_ne_nil mark rest), junk]

theorem pairForm_append_blanks (blank : ∀ c ∈ blanks, isBlank c = true) (text : List Char) :
    pairForm (text ++ blanks) = pairForm text := by
  simp only [pairForm, List.span_eq_takeWhile_dropWhile,
    dropWhile_append_blanks (show isBlank '=' = false by decide) blank]
  cases left : text.dropWhile (· != '=') with
  | nil => rfl
  | cons mark rest =>
    simp [takeWhile_append_of_marked (left ▸ List.cons_ne_nil mark rest),
      trim_append_blanks blank]

theorem form_append_blanks (blank : ∀ c ∈ blanks, isBlank c = true) (content : List Char)
    (closed : Bool) : form ⟨content ++ blanks, closed⟩ = form ⟨content, closed⟩ := by
  have skipped := skipBlanks_append_blanks blank content
  cases first : skipBlanks content with
  | nil =>
    rw [first] at skipped
    rw [form_blank skipped, form_blank first]
  | cons c text =>
    rw [first] at skipped
    by_cases bracket : c = '['
    · subst bracket
      rw [form_bracket skipped, form_bracket first]
      exact headerForm_append_blanks blank text closed
    · rw [form_other skipped bracket, form_other first bracket]
      exact pairForm_append_blanks blank (c :: text)

theorem form_blanks_append (blank : ∀ c ∈ blanks, isBlank c = true) (content : List Char)
    (closed : Bool) : form ⟨blanks ++ content, closed⟩ = form ⟨content, closed⟩ := by
  simp only [form, skipBlanks_blanks_append blank]

theorem step_congr {line other : Line} (same : line.form = other.form) (state : State) :
    state.step line = state.step other := by
  rw [State.step, same, State.step]

end Line

namespace Document

def withReturn (c : Char) : List Char :=
  if c = '\n' then ['\r', '\n'] else [c]

def withReturns (text : String) : String :=
  String.ofList (text.toList.flatMap withReturn)

theorem flatMap_withReturn_of_inner {content : List Char} (inner : '\n' ∉ content) :
    content.flatMap withReturn = content := by
  have alone : ∀ c ∈ content, withReturn c = [c] := fun c member =>
    if_neg fun feed : c = '\n' => inner (feed ▸ member)
  rw [List.flatMap_congr alone, List.flatMap_singleton']

theorem flatMap_withReturn_intercalate {contents : List (List Char)}
    (inner : ∀ content ∈ contents, '\n' ∉ content) :
    (['\n'].intercalate contents).flatMap withReturn =
      ['\n'].intercalate (contents.mapIdx fun place content =>
        content ++ if place + 1 < contents.length then ['\r'] else []) := by
  induction contents using Line.ofContents.induct with
  | case1 => rfl
  | case2 content =>
    have oneLine := flatMap_withReturn_of_inner (inner content List.mem_cons_self)
    simp [oneLine]
  | case3 content next rest ih =>
    have oneLine := flatMap_withReturn_of_inner (inner content List.mem_cons_self)
    have others := ih fun other later => inner other (List.mem_cons_of_mem _ later)
    simp [List.intercalate_cons_cons, oneLine, others, withReturn]

theorem withReturns_eq_reword (text : String) :
    withReturns text =
      reword (fun number content =>
        content ++ if number < (text.toList.splitOn '\n').length then ['\r'] else []) text := by
  have whole : ['\n'].intercalate (text.toList.splitOn '\n') = text.toList :=
    List.intercalate_splitOn '\n'
  rw [withReturns, ← whole, flatMap_withReturn_intercalate fun _ member => mark_not_mem member]
  simp only [reword, whole]

theorem scan_reword_of_form {change : Nat → List Char → List Char}
    (inner : ∀ number content, '\n' ∉ content → '\n' ∉ change number content)
    (same : ∀ number content closed,
      Line.form ⟨change number content, closed⟩ = Line.form ⟨content, closed⟩) (text : String) :
    scan (reword change text) = scan text := by
  rw [scan_eq_foldl_lines text]
  exact scan_reword inner rfl fun state line _ => Line.step_congr (same _ _ _) state

theorem scan_reword_padded {before after : Nat → List Char}
    (blank : ∀ number, ∀ c ∈ before number ++ after number, isBlank c = true) (text : String) :
    scan (reword (fun number content => before number ++ content ++ after number) text) =
      scan text := by
  refine scan_reword_of_form (fun number content inner feed => ?_)
    (fun number content closed => ?_) text
  · rw [List.append_assoc, List.mem_append, List.mem_append, or_left_comm,
      ← List.mem_append] at feed
    exact feed.elim inner fun added => by simpa using blank number _ added
  · rw [Line.form_append_blanks fun c member => blank number c (List.mem_append_right _ member),
      Line.form_blanks_append fun c member => blank number c (List.mem_append_left _ member)]

/-- Blanks that are put before and after the contents of lines, whatever these lines are, change
nothing of what is read. Carriage returns before line feeds are such blanks. -/
theorem scan_padded (text : String) :
    (∀ before after : Nat → List Char,
      (∀ number, ∀ c ∈ before number ++ after number, isBlank c = true) →
        scan (reword (fun number content => before number ++ content ++ after number) text) =
          scan text) ∧
      scan (withReturns text) = scan text := by
  refine ⟨fun before after blank => scan_reword_padded blank text, ?_⟩
  rw [withReturns_eq_reword]
  have blank : ∀ number, ∀ c ∈ ([] : List Char) ++
      (if number < (text.toList.splitOn '\n').length then ['\r'] else []), isBlank c = true := by
    intro number c member
    split at member
    next => exact (List.mem_singleton.1 member).symm ▸ rfl
    next => exact absurd member List.not_mem_nil
  exact scan_reword_padded blank text

end Document

end IniSettings
