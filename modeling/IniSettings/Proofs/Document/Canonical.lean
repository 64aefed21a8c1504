import IniSettings.Proofs.Document.Keyed
import IniSettings.Proofs.Document.Refinement

/-!
# What the file can hold

A name, a key or a value stands in the file as it is only if reading the line gives it back. What
is read from any text has that property, line by line, so a document that was read is canonical:
it is a map of maps, and the file can hold each of its texts.
-/

namespace IniSettings

namespace Format

structure IsName (name : String) : Prop where
  nonempty : name ≠ ""
  no_bracket : ']' ∉ name.toList
  one_line : '\n' ∉ name.toList
  no_blank_end : name.toList.getLast?.any Text.isBlank = false

structure IsKey (key : String) : Prop where
  no_equals : '=' ∉ key.toList
  one_line : '\n' ∉ key.toList
  no_bracket_start : key.toList.head? ≠ some '['
  trimmed : Text.isTrimmed key.toList = true

structure IsValue (value : String) : Prop where
  one_line : '\n' ∉ value.toList
  trimmed : Text.isTrimmed value.toList = true

instance IsName.decidable (name : String) : Decidable (IsName name) :=
  decidable_of_iff (name ≠ "" ∧ ']' ∉ name.toList ∧ '\n' ∉ name.toList ∧
      name.toList.getLast?.any Text.isBlank = false)
    ⟨fun ⟨h, i, j, k⟩ => ⟨h, i, j, k⟩, fun ⟨h, i, j, k⟩ => ⟨h, i, j, k⟩⟩

instance IsKey.decidable (key : String) : Decidable (IsKey key) :=
  decidable_of_iff ('=' ∉ key.toList ∧ '\n' ∉ key.toList ∧ key.toList.head? ≠ some '[' ∧
      Text.isTrimmed key.toList = true)
    ⟨fun ⟨h, i, j, k⟩ => ⟨h, i, j, k⟩, fun ⟨h, i, j, k⟩ => ⟨h, i, j, k⟩⟩

instance IsValue.decidable (value : String) : Decidable (IsValue value) :=
  decidable_of_iff ('\n' ∉ value.toList ∧ Text.isTrimmed value.toList = true)
    ⟨fun ⟨h, i⟩ => ⟨h, i⟩, fun ⟨h, i⟩ => ⟨h, i⟩⟩

end Format

open Format

structure Section.Holdable (content : Section) : Prop where
  name : IsName content.name
  pairs : ∀ pair ∈ content.pairs, IsKey pair.1 ∧ IsValue pair.2

/-- The file can hold every name, key and value of the document. -/
def Document.Holdable (document : Document) : Prop :=
  ∀ content ∈ document.sections, content.Holdable

structure Document.Canonical (document : Document) : Prop where
  keyed : document.Keyed
  holdable : document.Holdable

theorem Section.holdable_empty {name : String} (isName : IsName name) :
    (Section.empty name).Holdable :=
  ⟨isName, fun _ member => absurd member List.not_mem_nil⟩

theorem Section.Holdable.assign {content : Section} (holdable : content.Holdable)
    {key value : String} (isKey : IsKey key) (isValue : IsValue value) :
    (content.assign key value).Holdable := by
  refine ⟨holdable.name, fun pair member => ?_⟩
  rcases Section.mem_assignPair member with rfl | old
  · exact ⟨isKey, isValue⟩
  · exact holdable.pairs pair old

theorem Section.Holdable.isValue_of_get? {content : Section} (holdable : content.Holdable)
    {key value : String} (got : content.get? key = some value) : IsValue value :=
  (holdable.pairs (key, value) (mem_of_lookup got)).2

theorem Document.canonical_empty : Document.empty.Canonical :=
  ⟨Document.keyed_empty, fun _ member => absurd member List.not_mem_nil⟩

theorem Document.Canonical.openSection {document : Document} (canonical : document.Canonical)
    {name : String} (isName : IsName name) : (document.openSection name).1.Canonical := by
  refine ⟨canonical.keyed.openSection name, fun content member => ?_⟩
  rcases Document.mem_openSection member with rfl | old
  · exact Section.holdable_empty isName
  · exact canonical.holdable content old

theorem Document.Canonical.assign {document : Document} (canonical : document.Canonical)
    (index : Nat) {key value : String} (nonempty : key ≠ "") (isKey : IsKey key)
    (isValue : IsValue value) :
    (document.modifyAt index fun content => content.assign key value).Canonical := by
  refine ⟨canonical.keyed.modifyAt index (fun _ => rfl)
    fun content keyed => keyed.assign nonempty value, fun content member => ?_⟩
  rcases Document.mem_modifyAt member with old | ⟨old, there, rfl⟩
  · exact canonical.holdable content old
  · exact (canonical.holdable old there).assign isKey isValue

namespace Line
open Text

def Form.Holdable : Form → Prop
  | .blank => True
  | .header name => IsName (String.ofList name)
  | .badHeader _ => True
  | .pair key value =>
    key ≠ [] ∧ IsKey (String.ofList key) ∧ IsValue (String.ofList value)
  | .badPair _ => True

theorem holdable_headerForm {text : List Char} (inner : '\n' ∉ text) (closed : Bool) :
    (headerForm text closed).Holdable := by
  simp only [headerForm, List.span_eq_takeWhile_dropWhile]
  split
  next => trivial
  next =>
    split
    next => trivial
    next nonempty =>
      split
      next =>
        have part := (List.takeWhile_prefix (· != ']') (l := text)).subset
        refine ⟨?_, ?_, ?_, ?_⟩
        · simpa [← String.toList_inj] using nonempty
        · rw [String.toList_ofList]
          exact fun member => by simpa using List.mem_takeWhile_imp (mem_of_mem_trimEnd member)
        · rw [String.toList_ofList]
          exact fun member => inner (part (mem_of_mem_trimEnd member))
        · rw [String.toList_ofList]
          exact getLast?_trimEnd _
      next => trivial

theorem holdable_pairForm {c : Char} {text : List Char} (inner : '\n' ∉ c :: text)
    (notBlank : isBlank c = false) (notBracket : c ≠ '[') : (pairForm (c :: text)).Holdable := by
  have keyPart := (List.takeWhile_prefix (· != '=') (l := c :: text)).subset
  have valuePart := (List.dropWhile_suffix (· != '=') (l := c :: text)).subset
  simp only [pairForm, List.span_eq_takeWhile_dropWhile]
  split
  next => trivial
  next d after found =>
    split
    next => trivial
    next nonempty =>
      have keyNonempty : trimEnd ((c :: text).takeWhile (· != '=')) ≠ [] := by
        simpa using nonempty
      have start : (trimEnd ((c :: text).takeWhile (· != '='))).head? = some c := by
        rw [head?_trimEnd keyNonempty]
        by_cases stop : c = '='
        · simp [stop, trimEnd] at keyNonempty
        · simp [stop]
      refine ⟨keyNonempty, ⟨?_, ?_, ?_, ?_⟩, ⟨?_, ?_⟩⟩ <;> rw [String.toList_ofList]
      · exact fun member => by simpa using List.mem_takeWhile_imp (mem_of_mem_trimEnd member)
      · exact fun member => inner (keyPart (mem_of_mem_trimEnd member))
      · simpa [start] using notBracket
      · exact isTrimmed_iff.2 ⟨by simpa [start] using notBlank, getLast?_trimEnd _⟩
      · intro member
        exact inner (valuePart (found ▸ List.mem_cons_of_mem _ (mem_of_mem_trim member)))
      · exact isTrimmed_trim after

theorem holdable_form {line : Line} (inner : '\n' ∉ line.content) : line.form.Holdable := by
  have part := (skipBlanks_suffix line.content).subset
  cases skipped : skipBlanks line.content with
  | nil =>
    rw [form_blank skipped]
    trivial
  | cons c text =>
    rw [skipped] at part
    by_cases bracket : c = '['
    · subst bracket
      rw [form_bracket skipped]
      exact holdable_headerForm (fun member => inner (part (List.mem_cons_of_mem _ member))) _
    · rw [form_other skipped bracket]
      exact holdable_pairForm (fun member => inner (part member))
        (isBlank_head_skipBlanks skipped) bracket

namespace State

theorem canonical_step {state : State} (canonical : state.document.Canonical) {line : Line}
    (inner : '\n' ∉ line.content) : (state.step line).document.Canonical := by
  have holdable := holdable_form inner
  obtain ⟨current, number, document, reported⟩ := state
  show (take _ line.form).document.Canonical
  cases said : line.form with
  | blank => exact canonical
  | header name =>
    rw [said] at holdable
    exact canonical.openSection holdable
  | badHeader defect => exact canonical
  | pair key value =>
    rw [said] at holdable
    obtain ⟨nonempty, isKey, isValue⟩ := holdable
    cases current with
    | none => exact canonical
    | some index =>
      exact canonical.assign index (by simpa [← String.toList_inj] using nonempty) isKey isValue
  | badPair defect => cases current <;> exact canonical

theorem canonical_foldl {lines : List Line} (inner : ∀ line ∈ lines, '\n' ∉ line.content)
    {state : State} (canonical : state.document.Canonical) :
    (lines.foldl step state).document.Canonical := by
  induction lines generalizing state with
  | nil => exact canonical
  | cons line rest ih =>
    exact ih (fun line later => inner line (List.mem_cons_of_mem _ later))
      (canonical_step canonical (inner line List.mem_cons_self))

end State

end Line

theorem Document.canonical_scan (text : String) : (Document.scan text).document.Canonical := by
  rw [scan_eq_foldl]
  exact Line.State.canonical_foldl (fun _ member => Line.feed_not_mem_of_mem_split member)
    Document.canonical_empty

theorem Document.holdable_of_section?_scan {text name : String} {content : Section}
    (found : (scan text).document.section? name = some content) : content.Holdable :=
  (canonical_scan text).holdable content (List.mem_of_find?_eq_some found)

end IniSettings
