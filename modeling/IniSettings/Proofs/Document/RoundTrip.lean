import IniSettings.Document.Render
import IniSettings.Proofs.Document.Canonical

/-!
# Reading what was rendered

A rendered document is a list of lines, one for each section and each pair. As long as no text
breaks its line, reading them gives the document again, but for the blanks around its values. The
main statement says which documents are read exactly: those whose every text the file can hold.
-/

namespace IniSettings
open Format Text

/-! ## The lines of a document -/

def Section.headerLine (content : Section) : List Char :=
  '[' :: (content.name.toList ++ [']'])

def Section.pairLine (pair : String × String) : List Char :=
  pair.1.toList ++ ' ' :: '=' :: ' ' :: pair.2.toList

def Section.lines (content : Section) : List (List Char) :=
  content.headerLine :: content.pairs.map Section.pairLine

theorem Section.toList_render (content : Section) :
    content.render.toList = content.lines.flatMap (· ++ ['\n']) := by
  simp [Section.render, Section.lines, Section.headerLine, String.toList_join, List.flatMap_map,
    Section.renderPair, Section.pairLine]

theorem Document.toList_render (document : Document) :
    document.render.toList = (document.sections.flatMap Section.lines).flatMap (· ++ ['\n']) := by
  simp [Document.render, String.toList_join, List.flatMap_map, List.flatMap_assoc,
    Section.toList_render]

theorem Line.form_headerLine {content : Section} (isName : IsName content.name) (closed : Bool) :
    (Line.mk content.headerLine closed).form = .header content.name.toList := by
  have skipped : skipBlanks content.headerLine = '[' :: (content.name.toList ++ [']']) :=
    skipBlanks_eq_self rfl
  have inner : ∀ c ∈ content.name.toList, (c != ']') = true := fun c member => by
    simpa using fun bracket : c = ']' => isName.no_bracket (bracket ▸ member)
  rw [form_bracket skipped]
  simp only [headerForm, List.span_eq_takeWhile_dropWhile, List.takeWhile_append_of_pos inner,
    List.dropWhile_append_of_pos inner]
  simp [trimEnd_eq_self isName.no_blank_end, isName.nonempty, skipBlanks]

/-- Whatever the value of a pair, its line says the key as it is and the value without the blanks
around it. -/
theorem Line.form_pairLine {key : String} (isKey : IsKey key) (nonempty : key ≠ "")
    (value : String) (closed : Bool) :
    (Line.mk (Section.pairLine (key, value)) closed).form =
      .pair key.toList (trimEnd (skipBlanks value.toList)) := by
  obtain ⟨start, stop⟩ := isTrimmed_iff.1 isKey.trimmed
  obtain ⟨c, rest, split⟩ := List.exists_cons_of_ne_nil (mt String.toList_eq_nil_iff.1 nonempty)
  have inner : ∀ d ∈ key.toList, (d != '=') = true := fun d member => by
    simpa using fun equals : d = '=' => isKey.no_equals (equals ▸ member)
  have notBracket : c ≠ '[' := fun bracket => isKey.no_bracket_start (by rw [split, bracket]; rfl)
  have line : Section.pairLine (key, value) =
      c :: (rest ++ ' ' :: '=' :: ' ' :: value.toList) := by
    rw [Section.pairLine, split, List.cons_append]
  have skipped : skipBlanks (Section.pairLine (key, value)) =
      c :: (rest ++ ' ' :: '=' :: ' ' :: value.toList) := by
    rw [line]
    exact skipBlanks_eq_self (by simpa [split] using start)
  have before : (Section.pairLine (key, value)).takeWhile (· != '=') = key.toList ++ [' '] := by
    rw [Section.pairLine, List.takeWhile_append_of_pos inner]
    rfl
  have after : (Section.pairLine (key, value)).dropWhile (· != '=') =
      '=' :: ' ' :: value.toList := by
    rw [Section.pairLine, List.dropWhile_append_of_pos inner]
    rfl
  have space : ∀ c ∈ [' '], isBlank c = true := List.forall_mem_singleton.2 rfl
  rw [form_other skipped notBracket, ← line]
  simp only [pairForm, List.span_eq_takeWhile_dropWhile, before, after,
    trimEnd_append_blanks space, trimEnd_eq_self stop,
    skipBlanks_cons_of_blank (show isBlank ' ' = true by decide)]
  simp [nonempty]

/-! ## Reading them -/

def trimmed (value : String) : String :=
  String.ofList (trimEnd (skipBlanks value.toList))

def Section.trimmed (content : Section) : Section :=
  { content with pairs := content.pairs.map fun pair => (pair.1, IniSettings.trimmed pair.2) }

theorem Section.keys_trimmed (content : Section) : content.trimmed.keys = content.keys := by
  simp [Section.trimmed, keys, Function.comp_def]

theorem Section.Keyed.trimmed {content : Section} (keyed : content.Keyed) :
    content.trimmed.Keyed := by
  refine ⟨?_, ?_⟩ <;> rw [keys_trimmed]
  · exact keyed.distinct
  · exact keyed.nonempty

def Document.trimmed (document : Document) : Document :=
  ⟨document.sections.map Section.trimmed⟩

structure Section.Readable (content : Section) : Prop where
  keyed : content.Keyed
  name : IsName content.name
  pairs : ∀ pair ∈ content.pairs, IsKey pair.1 ∧ '\n' ∉ pair.2.toList

theorem Section.Holdable.readable {content : Section} (holdable : content.Holdable)
    (keyed : content.Keyed) : content.Readable :=
  ⟨keyed, holdable.name, fun pair there => (holdable.pairs pair there).imp_right IsValue.one_line⟩

theorem Section.Readable.newline_not_mem {content : Section} (readable : content.Readable) :
    ∀ line ∈ content.lines, '\n' ∉ line := by
  intro line member
  rcases List.mem_cons.1 member with rfl | later
  · simp [Section.headerLine, readable.name.one_line]
  · obtain ⟨pair, there, rfl⟩ := List.mem_map.1 later
    obtain ⟨isKey, oneLine⟩ := readable.pairs pair there
    simp [Section.pairLine, isKey.one_line, oneLine]

theorem trimmed_of_isValue {value : String} (isValue : IsValue value) :
    trimmed value = value := by
  rw [trimmed, trim_eq_self isValue.trimmed, String.ofList_toList]

theorem isValue_trimmed {value : String} (oneLine : '\n' ∉ value.toList) :
    IsValue (trimmed value) := by
  refine ⟨?_, ?_⟩ <;> rw [trimmed, String.toList_ofList]
  · exact fun feed => oneLine (mem_of_mem_trim feed)
  · exact isTrimmed_trim _

theorem isValue_of_trimmed {value : String} (oneLine : '\n' ∉ value.toList)
    (same : trimmed value = value) : IsValue value :=
  same ▸ isValue_trimmed oneLine

theorem Section.trimmed_of_holdable {content : Section} (holdable : content.Holdable) :
    content.trimmed = content := by
  have pairs : (content.pairs.map fun pair => (pair.1, IniSettings.trimmed pair.2)) =
      content.pairs.map id := by
    refine List.map_congr_left fun pair there => ?_
    rw [trimmed_of_isValue (holdable.pairs pair there).2]
    rfl
  rw [Section.trimmed, pairs, List.map_id]

theorem Document.trimmed_of_holdable {document : Document} (holdable : document.Holdable) :
    document.trimmed = document := by
  have sections : document.sections.map Section.trimmed = document.sections.map id :=
    List.map_congr_left fun content member => Section.trimmed_of_holdable (holdable content member)
  rw [Document.trimmed, sections, List.map_id]

theorem Section.foldl_assign (name : String) (before : List (String × String))
    {pairs : List (String × String)}
    (distinct : (before ++ pairs).map Prod.fst |>.Nodup) :
    pairs.foldl (fun content pair => content.assign pair.1 pair.2) (Section.mk name before) =
      ⟨name, before ++ pairs⟩ := by
  induction pairs generalizing before with
  | nil => simp
  | cons pair rest ih =>
    have fresh : pair.1 ∉ before.map Prod.fst := by
      rw [List.map_append, List.map_cons, List.nodup_append] at distinct
      exact fun member => distinct.2.2 _ member _ List.mem_cons_self rfl
    have assigned : (Section.mk name before).assign pair.1 pair.2 = ⟨name, before ++ [pair]⟩ :=
      congrArg (Section.mk name) (Section.assignPair_of_not_mem _ fresh)
    rw [List.foldl_cons, assigned, ih _ (by simpa using distinct)]
    simp

theorem Document.modifyAt_id (document : Document) (index : Nat) :
    (document.modifyAt index fun content => content) = document :=
  congrArg Document.mk (List.modify_id index document.sections)

theorem Document.modifyAt_modifyAt (document : Document) (index : Nat)
    (first second : Section → Section) :
    (document.modifyAt index first).modifyAt index second =
      document.modifyAt index fun content => second (first content) := by
  simp only [Document.modifyAt, List.modify_modify_eq]
  rfl

theorem Document.modifyAt_last (sections : List Section) (content : Section)
    (change : Section → Section) :
    (Document.mk (sections ++ [content])).modifyAt sections.length change =
      ⟨sections ++ [change content]⟩ := by
  simp [Document.modifyAt, List.modify_eq_take_cons_drop]

namespace Line.State

theorem step_headerLine (state : State) {content : Section} (isName : IsName content.name)
    (fresh : content.name ∉ state.document.names) :
    state.step ⟨content.headerLine, true⟩ =
      ⟨some state.document.sections.length, state.line + 1,
        ⟨state.document.sections ++ [Section.empty content.name]⟩, state.reported⟩ := by
  simp [step, form_headerLine isName, take, Document.openSection_of_not_mem fresh]

theorem step_pairLine (index line : Nat) (document : Document) (reported : List Diagnostic)
    {key : String} (isKey : IsKey key) (nonempty : key ≠ "") (value : String) :
    step ⟨some index, line, document, reported⟩ ⟨Section.pairLine (key, value), true⟩ =
      ⟨some index, line + 1,
        document.modifyAt index fun content => content.assign key (IniSettings.trimmed value),
        reported⟩ := by
  simp [step, form_pairLine isKey nonempty, take, IniSettings.trimmed]

theorem foldl_pairLines {pairs : List (String × String)}
    (keys : ∀ pair ∈ pairs, IsKey pair.1 ∧ pair.1 ≠ "") (index line : Nat) (document : Document)
    (reported : List Diagnostic) :
    (pairs.map fun pair => Line.mk (Section.pairLine pair) true).foldl step
        ⟨some index, line, document, reported⟩ =
      ⟨some index, line + pairs.length,
        document.modifyAt index fun content =>
          pairs.foldl (fun content pair => content.assign pair.1 (IniSettings.trimmed pair.2))
            content,
        reported⟩ := by
  induction pairs generalizing line document with
  | nil => exact congrArg (State.mk _ _ · _) (Document.modifyAt_id document index).symm
  | cons pair rest ih =>
    obtain ⟨isKey, nonempty⟩ := keys pair List.mem_cons_self
    rw [List.map_cons, List.foldl_cons, step_pairLine index line document reported isKey nonempty,
      ih (fun pair later => keys pair (List.mem_cons_of_mem _ later)), Document.modifyAt_modifyAt,
      List.length_cons, Nat.add_right_comm]
    rfl

theorem foldl_sectionLines (state : State) {content : Section} (readable : content.Readable)
    (fresh : content.name ∉ state.document.names) :
    (content.lines.map fun line => Line.mk line true).foldl step state =
      ⟨some state.document.sections.length, state.line + content.lines.length,
        ⟨state.document.sections ++ [content.trimmed]⟩, state.reported⟩ := by
  have keys : ∀ pair ∈ content.pairs, IsKey pair.1 ∧ pair.1 ≠ "" := fun pair member =>
    ⟨(readable.pairs pair member).1, fun empty =>
      readable.keyed.nonempty (empty ▸ List.mem_map_of_mem member)⟩
  have assigned : content.pairs.foldl
      (fun content pair => content.assign pair.1 (IniSettings.trimmed pair.2))
      (Section.empty content.name) = content.trimmed := by
    have distinct := readable.keyed.distinct
    rw [← content.keys_trimmed] at distinct
    exact List.foldl_map.symm.trans (Section.foldl_assign content.name [] distinct)
  have pairLines := foldl_pairLines keys state.document.sections.length (state.line + 1)
    ⟨state.document.sections ++ [Section.empty content.name]⟩ state.reported
  rw [Document.modifyAt_last, assigned] at pairLines
  rw [Section.lines, List.map_cons, List.foldl_cons, step_headerLine state readable.name fresh,
    List.map_map]
  refine pairLines.trans ?_
  simp
  omega

theorem foldl_documentLines {sections : List Section}
    (readable : ∀ content ∈ sections, content.Readable) (state : State)
    (distinct : (state.document.names ++ sections.map Section.name).Nodup) :
    (((sections.flatMap Section.lines).map fun line => Line.mk line true).foldl step
        state).reading =
      ⟨⟨state.document.sections ++ sections.map Section.trimmed⟩, state.reported.reverse⟩ := by
  induction sections generalizing state with
  | nil => simp [reading]
  | cons content rest ih =>
    have fresh : content.name ∉ state.document.names := by
      rw [List.map_cons, List.nodup_append] at distinct
      exact fun member => distinct.2.2 _ member _ List.mem_cons_self rfl
    rw [List.flatMap_cons, List.map_append, List.foldl_append,
      foldl_sectionLines state (readable content List.mem_cons_self) fresh,
      ih (fun content later => readable content (List.mem_cons_of_mem _ later)) _ ?_]
    · simp
    · simpa [Document.names, Section.trimmed] using distinct

end Line.State

namespace Document

/-- A document whose pairs stand on lines of their own is read back without a complaint, and all
that is lost is the blanks around its values. -/
theorem scan_render {document : Document} (distinct : document.names.Nodup)
    (readable : ∀ content ∈ document.sections, content.Readable) :
    scan document.render = ⟨document.trimmed, []⟩ := by
  have inner : ∀ line ∈ document.sections.flatMap Section.lines, '\n' ∉ line := by
    intro line member
    obtain ⟨content, there, within⟩ := List.mem_flatMap.1 member
    exact (readable content there).newline_not_mem line within
  have lines := Line.split_flatMap_closed inner []
  rw [List.append_nil, Line.split_nil, List.append_nil, ← toList_render] at lines
  rw [scan_eq_foldl, lines, Line.State.foldl_documentLines readable Line.State.start
    (by simpa [Line.State.start, names, empty] using distinct)]
  simp [Line.State.start, empty, trimmed]

theorem scan_render_of_canonical {document : Document} (canonical : document.Canonical) :
    scan document.render = ⟨document, []⟩ := by
  have readable : ∀ content ∈ document.sections, content.Readable := fun content member =>
    (canonical.holdable content member).readable (canonical.keyed.sections content member)
  rw [scan_render canonical.keyed.distinct readable, trimmed_of_holdable canonical.holdable]

/-- A document made by edits is read back as it was exactly if the file can hold all of it. -/
theorem scan_render_build_iff (edits : List Edit) :
    ((scan (build edits).render).isClean = true ∧
        (scan (build edits).render).document = build edits) ↔
      (build edits).Holdable := by
  constructor
  · rintro ⟨-, same⟩
    exact same ▸ (canonical_scan _).holdable
  · intro holdable
    rw [scan_render_of_canonical ⟨keyed_build edits, holdable⟩]
    exact ⟨rfl, rfl⟩

/-- Whatever the text, what is read of it is a map of maps that the file can hold. So it is read
again as it is, and rendered again to the same text. -/
theorem scan_render_scan (text : String) :
    let document := (scan text).document
    document.Canonical ∧ scan document.render = ⟨document, []⟩ ∧
      (scan document.render).document.render = document.render := by
  intro document
  have canonical : document.Canonical := canonical_scan text
  have same : scan document.render = ⟨document, []⟩ := scan_render_of_canonical canonical
  exact ⟨canonical, same, by rw [same]⟩

end Document

end IniSettings
