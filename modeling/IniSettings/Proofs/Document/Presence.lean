import IniSettings.Proofs.Document.RoundTrip

/-!
# What was read stays

A section and a key that were read are there in the end, whatever follows. So a text cannot take
back what its first lines said.
-/

namespace IniSettings
open Format

def Document.Has (document : Document) (name key : String) : Prop :=
  ∃ content ∈ document.sections, content.name = name ∧ key ∈ content.keys

theorem Section.mem_keys_assign {content : Section} {key : String} (member : key ∈ content.keys)
    (other value : String) : key ∈ (content.assign other value).keys := by
  change key ∈ (assignPair other value content.pairs).map Prod.fst
  rw [keys_assignPair]
  split
  next => exact member
  next => exact List.mem_append_left _ member

namespace Document

variable {document : Document} {name key : String}

theorem Has.openSection (has : document.Has name key) (other : String) :
    (document.openSection other).1.Has name key := by
  obtain ⟨content, member, present⟩ := has
  by_cases known : other ∈ document.names
  · rw [openSection_of_mem known]
    exact ⟨content, member, present⟩
  · rw [openSection_of_not_mem known]
    exact ⟨content, List.mem_append_left _ member, present⟩

theorem Has.assign (has : document.Has name key) (index : Nat) (other value : String) :
    (document.modifyAt index fun content => content.assign other value).Has name key := by
  obtain ⟨content, member, rfl, present⟩ := has
  obtain ⟨place, found⟩ := List.mem_iff_getElem?.1 member
  have moved :
      (document.modifyAt index fun content => content.assign other value).sections[place]? =
        some (if index = place then content.assign other value else content) := by
    rw [modifyAt, List.getElem?_modify, found]
    split <;> rfl
  refine ⟨_, List.mem_of_getElem? moved, ?_⟩
  split
  next => exact ⟨rfl, Section.mem_keys_assign present other value⟩
  next => exact ⟨rfl, present⟩

end Document

namespace Line.State

variable {state : State} {name key : String}

theorem has_step (has : state.document.Has name key) (line : Line) :
    (state.step line).document.Has name key := by
  obtain ⟨current, number, document, reported⟩ := state
  show (take _ line.form).document.Has name key
  cases line.form with
  | blank => exact has
  | header other => exact has.openSection _
  | badHeader defect => exact has
  | pair other value =>
    cases current with
    | none => exact has
    | some index => exact has.assign index _ _
  | badPair defect => cases current <;> exact has

theorem has_foldl (has : state.document.Has name key) (lines : List Line) :
    (lines.foldl step state).document.Has name key := by
  induction lines generalizing state with
  | nil => exact has
  | cons line rest ih => exact ih (has_step has line)

end Line.State

theorem Section.flatMap_lines_span (name key : String) (before after : List (String × String))
    {value : String} {start more : List Char} (spans : value.toList = start ++ '\n' :: more) :
    ∃ tail, (Section.mk name (before ++ (key, value) :: after)).lines.flatMap (· ++ ['\n']) =
      (Section.mk name (before ++ [(key, String.ofList start)])).lines.flatMap (· ++ ['\n']) ++
        tail := by
  refine ⟨more ++ '\n' :: (after.map pairLine).flatMap (· ++ ['\n']), ?_⟩
  simp [lines, headerLine, pairLine, spans]

theorem Document.scan_has {content : Section} (readable : content.Readable) {text : String}
    {tail : List Char} (begins : text.toList = content.lines.flatMap (· ++ ['\n']) ++ tail)
    {key : String} (member : key ∈ content.keys) :
    ∃ found value, (scan text).document.section? content.name = some found ∧
      found.get? key = some value := by
  have canonical := canonical_scan text
  have has : (scan text).document.Has content.name key := by
    rw [scan_eq_foldl, begins, Line.split_flatMap_closed readable.newline_not_mem,
      List.foldl_append,
      Line.State.foldl_sectionLines _ readable (by simp [Line.State.start, names, empty])]
    refine Line.State.has_foldl ?_ _
    refine ⟨content.trimmed, List.mem_append_right _ (List.mem_singleton_self _), rfl, ?_⟩
    rwa [Section.keys_trimmed]
  obtain ⟨found, there, named, present⟩ := has
  obtain ⟨value, got, -⟩ := Section.exists_get? present
  refine ⟨found, value, ?_, got⟩
  rw [← named]
  exact canonical.keyed.section?_of_mem there

/-- The first value of several lines leaves one line under its key, and nothing that its other
lines say takes that away. -/
theorem Document.scan_render_span {name key : String} {before : List (String × String)}
    (readable : (Section.mk name before).Readable) (isKey : IsKey key) (nonempty : key ≠ "")
    (fresh : key ∉ before.map Prod.fst) {value : String} (feed : '\n' ∈ value.toList)
    (after : List (String × String)) :
    ∃ found written,
      (scan (Document.mk [⟨name, before ++ (key, value) :: after⟩]).render).document.section? name =
          some found ∧
        found.get? key = some written := by
  obtain ⟨start, more, spans, noFeed⟩ := List.eq_append_cons_of_mem feed
  obtain ⟨tail, lines⟩ := Section.flatMap_lines_span name key before after spans
  have keyed : (Section.mk name (before ++ [(key, String.ofList start)])).Keyed :=
    Section.assignPair_of_not_mem (String.ofList start) fresh ▸ readable.keyed.assign nonempty _
  have firstLines : (Section.mk name (before ++ [(key, String.ofList start)])).Readable := by
    refine ⟨keyed, readable.name, fun pair member => ?_⟩
    rcases List.mem_append.1 member with early | last
    · exact readable.pairs pair early
    · obtain rfl := List.mem_singleton.1 last
      exact ⟨isKey, by rwa [String.toList_ofList]⟩
  have begins : (Document.mk [⟨name, before ++ (key, value) :: after⟩]).render.toList =
      (Section.mk name (before ++ [(key, String.ofList start)])).lines.flatMap (· ++ ['\n']) ++
        tail := by
    rw [toList_render, ← lines]
    simp
  exact scan_has firstLines begins (by simp [Section.keys])

end IniSettings
