import IniSettings.Proofs.Document.Canonical

/-!
# The last assignment counts

A line with a pair assigns a value in the section that is open there. A text may open a section
many times and assign a key many times: what is read has the sections that the headers open, and
gives each key of a section the value that was assigned last.
-/

namespace IniSettings

structure Assignment where
  title : String
  key : String
  value : String
deriving DecidableEq, Repr

def Assignment.valueOf? (title key : String) (assignment : Assignment) : Option String :=
  if assignment.title = title ∧ assignment.key = key then some assignment.value else none

namespace Line

def Form.header? : Form → Option String
  | .header name => some (String.ofList name)
  | _ => none

def Form.opened (current : Option String) : Form → Option String
  | .header name => some (String.ofList name)
  | .badHeader _ => none
  | _ => current

def Form.assignment? (current : Option String) : Form → Option Assignment
  | .pair key value => current.map fun title => ⟨title, String.ofList key, String.ofList value⟩
  | _ => none

def headers (lines : List Line) : List String :=
  lines.filterMap fun line => line.form.header?

def assignments (current : Option String) : List Line → List Assignment
  | [] => []
  | line :: rest =>
    (line.form.assignment? current).toList ++ assignments (line.form.opened current) rest

end Line

namespace Document

def headers (text : String) : List String :=
  Line.headers (Line.split text.toList)

def assignments (text : String) : List Assignment :=
  Line.assignments none (Line.split text.toList)

def lastAssigned (text title key : String) : Option String :=
  ((assignments text).filterMap (Assignment.valueOf? title key)).getLast?

def value? (document : Document) (title key : String) : Option String :=
  (document.section? title).bind fun content => content.get? key

variable {document : Document} {content : Section} {index : Nat}

theorem section?_isSome_iff {title : String} :
    (document.section? title).isSome = true ↔ title ∈ document.names := by
  simp [section?, names, List.find?_isSome]

theorem section?_modifyAt (distinct : document.names.Nodup)
    (there : document.sections[index]? = some content) (change : Section → Section)
    (named : ∀ content, (change content).name = content.name) (title : String) :
    (document.modifyAt index change).section? title =
      if content.name = title then some (change content) else document.section? title := by
  obtain ⟨sections⟩ := document
  simp only [section?, modifyAt, names] at *
  induction sections generalizing index with
  | nil => simp at there
  | cons first rest ih =>
    obtain ⟨apart, distinct⟩ := List.nodup_cons.1 distinct
    cases index with
    | zero =>
      obtain rfl : first = content := by simpa using there
      by_cases same : first.name = title
      · simp [named, same]
      · simp [named, same, beq_false_of_ne same]
    | succ index =>
      have later : rest[index]? = some content := by simpa using there
      rw [List.modify_succ_cons, List.find?_cons, List.find?_cons, ih distinct later]
      by_cases same : first.name = title
      · have other : content.name ≠ title := fun also =>
          apart (same ▸ also ▸ List.mem_map_of_mem (List.mem_of_getElem? later))
        simp [same, other]
      · simp [beq_false_of_ne same]

theorem value?_assign (distinct : document.names.Nodup)
    (there : document.sections[index]? = some content) (key value title other : String) :
    (document.modifyAt index fun content => content.assign key value).value? title other =
      (Assignment.valueOf? title other ⟨content.name, key, value⟩).or
        (document.value? title other) := by
  have found : document.section? content.name = some content := by
    have itself := section?_modifyAt distinct there id (fun _ => rfl) content.name
    simpa [modifyAt, List.modify_id] using itself
  have changed := section?_modifyAt distinct there (fun content => content.assign key value)
    (fun _ => rfl) title
  rw [value?, changed, Assignment.valueOf?]
  by_cases same : content.name = title
  · subst same
    by_cases here : other = key
    · simp [here, Section.get?_assign]
    · simp [here, Ne.symm here, Section.get?_assign, value?, found]
  · simp [same, value?]

theorem openSection_there (document : Document) (title : String) :
    ∃ content, (document.openSection title).1.sections[(document.openSection title).2]? =
      some content ∧ content.name = title := by
  rw [openSection]
  cases found : document.sections.findIdx? fun content => content.name == title with
  | none => exact ⟨Section.empty title, by simp, rfl⟩
  | some index =>
    obtain ⟨within, named, -⟩ := List.findIdx?_eq_some_iff_getElem.1 found
    exact ⟨document.sections[index], List.getElem?_eq_getElem within, by simpa using named⟩

theorem mem_names_openSection {title other : String} :
    title ∈ (document.openSection other).1.names ↔ title ∈ document.names ∨ title = other := by
  by_cases known : other ∈ document.names
  · rw [openSection_of_mem known]
    constructor
    · exact .inl
    · rintro (member | rfl)
      · exact member
      · exact known
  · rw [openSection_of_not_mem known]
    simp [names, Section.empty]

theorem value?_openSection (document : Document) (opened title key : String) :
    (document.openSection opened).1.value? title key = document.value? title key := by
  by_cases known : opened ∈ document.names
  · rw [openSection_of_mem known]
  · rw [openSection_of_not_mem known]
    cases found : document.section? title with
    | some content =>
      rw [section?] at found
      simp [value?, section?, List.find?_append, found]
    | none =>
      rw [section?] at found
      by_cases same : opened = title
      · simp [value?, section?, List.find?_append, found, same, Section.empty, Section.get?]
      · simp [value?, section?, List.find?_append, found, same, Section.empty]

end Document

namespace Line.State

def Opened (state : State) : Option String → Prop
  | none => state.current = none
  | some title => ∃ index content, state.current = some index ∧
      state.document.sections[index]? = some content ∧ content.name = title

variable {state : State} {current : Option String} {title key : String}

theorem opened_step (opened : state.Opened current) (line : Line) :
    (state.step line).Opened (line.form.opened current) := by
  obtain ⟨open?, number, document, reported⟩ := state
  show (take _ line.form).Opened _
  cases line.form with
  | blank => exact opened
  | header name =>
    obtain ⟨content, there, named⟩ := document.openSection_there (String.ofList name)
    exact ⟨_, content, rfl, there, named⟩
  | badHeader defect => rfl
  | pair key value =>
    cases current with
    | none =>
      obtain rfl : open? = none := opened
      rfl
    | some title =>
      obtain ⟨index, content, rfl, there, named⟩ := opened
      refine ⟨index, content.assign (String.ofList key) (String.ofList value), rfl, ?_, named⟩
      show (document.sections.modify index _)[index]? = _
      rw [List.getElem?_modify_eq, there]
      rfl
  | badPair defect =>
    cases current with
    | none =>
      obtain rfl : open? = none := opened
      rfl
    | some title =>
      obtain ⟨index, content, rfl, there, named⟩ := opened
      exact ⟨index, content, rfl, there, named⟩

theorem value?_step (distinct : state.document.names.Nodup) (opened : state.Opened current)
    (line : Line) :
    (state.step line).document.value? title key =
      ((line.form.assignment? current).bind (Assignment.valueOf? title key)).or
        (state.document.value? title key) := by
  obtain ⟨open?, number, document, reported⟩ := state
  show (take _ line.form).document.value? title key = _
  cases line.form with
  | blank => rfl
  | header name => exact document.value?_openSection _ title key
  | badHeader defect => rfl
  | pair assigned value =>
    cases current with
    | none =>
      obtain rfl : open? = none := opened
      rfl
    | some name =>
      obtain ⟨index, content, rfl, there, rfl⟩ := opened
      exact Document.value?_assign distinct there _ _ title key
  | badPair defect => cases open? <;> rfl

theorem mem_names_step (line : Line) :
    title ∈ (state.step line).document.names ↔
      title ∈ state.document.names ∨ line.form.header? = some title := by
  obtain ⟨open?, number, document, reported⟩ := state
  show title ∈ (take _ line.form).document.names ↔ _
  cases line.form with
  | header name => simp [take, Document.mem_names_openSection, Form.header?, eq_comm]
  | pair assigned value =>
    cases open? with
    | none => simp [take, report, Form.header?]
    | some index =>
      have names : (document.modifyAt index fun content =>
          content.assign (String.ofList assigned) (String.ofList value)).names = document.names :=
        document.names_modifyAt index fun _ => rfl
      simp [take, names, Form.header?]
  | badPair defect => cases open? <;> simp [take, report, Form.header?]
  | _ => simp [take, report, Form.header?]

theorem mem_names_foldl (lines : List Line) :
    title ∈ (lines.foldl step state).document.names ↔
      title ∈ state.document.names ∨ title ∈ headers lines := by
  induction lines generalizing state with
  | nil => simp [headers]
  | cons line rest ih =>
    rw [List.foldl_cons, ih, mem_names_step, or_assoc]
    simp [headers, List.mem_filterMap]

/-- Of what the lines assign to a key the last counts, and if they assign nothing, what was read
before them. -/
theorem value?_foldl {lines : List Line} (inner : ∀ line ∈ lines, '\n' ∉ line.content)
    (canonical : state.document.Canonical) (opened : state.Opened current) :
    (lines.foldl step state).document.value? title key =
      ((assignments current lines).filterMap (Assignment.valueOf? title key)).getLast?.or
        (state.document.value? title key) := by
  induction lines generalizing state current with
  | nil => rfl
  | cons line rest ih =>
    have firstLine : '\n' ∉ line.content := inner line List.mem_cons_self
    rw [List.foldl_cons, ih (fun line later => inner line (List.mem_cons_of_mem _ later))
      (canonical_step canonical firstLine) (opened_step opened line),
      value?_step canonical.keyed.distinct opened, assignments, List.filterMap_append,
      List.getLast?_append, Option.or_assoc]
    cases line.form.assignment? current with
    | none => rfl
    | some assignment =>
      cases given : assignment.valueOf? title key <;> simp [given]

end Line.State

namespace Document

theorem section?_scan_isSome_iff {text title : String} :
    ((scan text).document.section? title).isSome = true ↔ title ∈ headers text := by
  rw [section?_isSome_iff, scan_eq_foldl, headers]
  refine Line.State.mem_names_foldl _ |>.trans ?_
  simp [Line.State.start, names, empty]

theorem value?_scan (text title key : String) :
    (scan text).document.value? title key = lastAssigned text title key := by
  rw [scan_eq_foldl]
  have closed : Line.State.start.Opened none := rfl
  refine (Line.State.value?_foldl (fun _ member => Line.feed_not_mem_of_mem_split member)
    canonical_empty closed).trans ?_
  simp [Line.State.start, value?, section?, empty, lastAssigned, assignments]

end Document

end IniSettings
