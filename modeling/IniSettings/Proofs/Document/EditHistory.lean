import IniSettings.Proofs.Document.Editing

/-!
# Documents by their history

What a document is after any edits is told by the edits and by what it was before them. Sections
stand in the order in which edits first saw to them, the keys of a section in the order of the first
set since the key was last absent, and a key has the value that it was given last, if it was not
removed since.
-/

namespace IniSettings

section FirstOccurrences

variable {α : Type} [DecidableEq α]

theorem eraseDups_concat (list : List α) (last : α) :
    (list ++ [last]).eraseDups =
      if last ∈ list then list.eraseDups else list.eraseDups ++ [last] := by
  rw [List.eraseDups_append]
  by_cases member : last ∈ list <;> simp [List.removeAll, List.eraseDups_cons, member]

theorem eraseDups_filter (keep : α → Bool) (list : List α) :
    (list.filter keep).eraseDups = list.eraseDups.filter keep := by
  induction list using List.reverseRecOn with
  | nil => rfl
  | append_singleton list last ih =>
    rw [List.filter_append, eraseDups_concat]
    cases kept : keep last with
    | false => split <;> simp [kept, ih]
    | true =>
      simp only [List.filter_cons, kept, if_true, List.filter_nil, eraseDups_concat,
        List.mem_filter, and_true, ih]
      split <;> simp [kept]

theorem eraseDups_of_nodup {list : List α} (distinct : list.Nodup) : list.eraseDups = list := by
  induction list using List.reverseRecOn with
  | nil => rfl
  | append_singleton list last ih =>
    rw [← List.concat_eq_append, List.nodup_concat] at distinct
    rw [eraseDups_concat, if_neg distinct.1, ih distinct.2]

theorem nodup_eraseDups (list : List α) : list.eraseDups.Nodup := by
  induction list using List.reverseRecOn with
  | nil => exact List.nodup_nil
  | append_singleton list last ih =>
    rw [eraseDups_concat]
    split
    next => exact ih
    next fresh =>
      rw [← List.concat_eq_append, List.nodup_concat, List.mem_eraseDups]
      exact ⟨fresh, ih⟩

theorem eraseDups_eraseDups_append (list more : List α) :
    (list.eraseDups ++ more).eraseDups = (list ++ more).eraseDups := by
  have same : more.removeAll list.eraseDups = more.removeAll list :=
    List.filter_congr fun item _ => by simp
  rw [List.eraseDups_append, List.eraseDups_append, same, eraseDups_of_nodup (nodup_eraseDups list)]

end FirstOccurrences

namespace Document

inductive Start where
  | blank
  | scanned (text : String)
deriving DecidableEq, Repr

def Start.document : Start → Document
  | .blank => empty
  | .scanned text => (scan text).document

def namesAfter (start : Document) (edits : List Edit) : List String :=
  (start.names ++ edits.filterMap Edit.created?).eraseDups

/-- The keys that were set in the section and not removed since, once for each time. -/
def standing (name : String) : List Edit → List String
  | [] => []
  | edit :: rest =>
    ((edit.setIn? name).toList.filter fun key => Edit.remove name key ∉ rest) ++ standing name rest

/-- The keys that were in the section or were set there, less those that an edit removed since. -/
def keysAfter (start : Document) (edits : List Edit) (name : String) : List String :=
  ((start.keysOf name).filter (fun key => Edit.remove name key ∉ edits) ++
    standing name edits).eraseDups

def valueAfter (start : Document) (edits : List Edit) (name key : String) : Option String :=
  ((edits.filterMap (Edit.verdict? name key)).getLast?).getD (start.value? name key)

def sectionAfter (start : Document) (edits : List Edit) (name : String) : Section :=
  .tabulate name (keysAfter start edits name) (valueAfter start edits name)

variable {document start : Document} {edits : List Edit}

theorem keysOf_edit (keyed : document.Keyed) (change : Edit) (name : String) :
    (document.edit change).keysOf name =
      ((document.keysOf name).filter (fun key => change ≠ .remove name key) ++
        (change.setIn? name).toList).eraseDups := by
  have distinct := (keyed.nodup_keysOf name).1
  cases change with
  | insert title =>
    rw [edit, keysOf_openSection]
    simp [Edit.setIn?, eraseDups_of_nodup distinct]
  | set title changed value =>
    rw [edit, keysOf_set keyed, Edit.setIn?]
    by_cases about : title = name ∧ changed ≠ ""
    · by_cases known : changed ∈ document.keysOf name <;>
        simp [about, known, eraseDups_concat, eraseDups_of_nodup distinct]
    · have neither : ¬ (title = name ∧ changed ≠ "" ∧ changed ∉ document.keysOf name) :=
        fun both => about ⟨both.1, both.2.1⟩
      simp [about, neither, eraseDups_of_nodup distinct]
  | remove title removed =>
    rw [edit, keysOf_remove keyed, distinct.erase_eq_filter]
    by_cases here : title = name
    · have others : (document.keysOf name).filter (fun key => key != removed) =
          (document.keysOf name).filter fun key => removed ≠ key :=
        List.filter_congr fun key _ => by grind
      simp [Edit.setIn?, here, others, eraseDups_filter, eraseDups_of_nodup distinct]
    · simp [Edit.setIn?, here, eraseDups_of_nodup distinct]

theorem keyed_foldl_edit (keyed : start.Keyed) (edits : List Edit) :
    (edits.foldl edit start).Keyed := by
  induction edits using List.reverseRecOn with
  | nil => exact keyed
  | append_singleton edits last ih =>
    rw [List.foldl_concat]
    exact ih.edit last

theorem names_foldl_edit (keyed : start.Keyed) (edits : List Edit) :
    (edits.foldl edit start).names = namesAfter start edits := by
  induction edits using List.reverseRecOn with
  | nil => simp [namesAfter, eraseDups_of_nodup keyed.distinct]
  | append_singleton edits last ih =>
    rw [List.foldl_concat, names_edit, ih, namesAfter, namesAfter, List.filterMap_append]
    cases created : last.created? with
    | none => simp [created]
    | some name =>
      simp only [List.filterMap_cons, created, List.filterMap_nil, ← List.append_assoc,
        eraseDups_concat, List.mem_eraseDups]

theorem value?_foldl_edit (keyed : start.Keyed) (edits : List Edit) (name key : String) :
    (edits.foldl edit start).value? name key = valueAfter start edits name key := by
  induction edits using List.reverseRecOn with
  | nil => rfl
  | append_singleton edits last ih =>
    rw [List.foldl_concat, value?_edit (keyed_foldl_edit keyed edits), ih, valueAfter, valueAfter,
      List.filterMap_append]
    cases said : last.verdict? name key <;> simp [said]

theorem standing_concat (name : String) (edits : List Edit) (last : Edit) :
    standing name (edits ++ [last]) =
      (standing name edits).filter (fun key => last ≠ .remove name key) ++
        (last.setIn? name).toList := by
  induction edits with
  | nil => simp [standing]
  | cons first rest ih =>
    rw [List.cons_append, standing, standing, ih, List.filter_append, List.filter_filter,
      List.append_assoc]
    congr 2
    funext key
    simp [and_comm, eq_comm]

theorem keysAfter_concat (start : Document) (edits : List Edit) (last : Edit) (name : String) :
    keysAfter start (edits ++ [last]) name =
      ((keysAfter start edits name).filter (fun key => last ≠ .remove name key) ++
        (last.setIn? name).toList).eraseDups := by
  have kept : (start.keysOf name).filter (fun key => Edit.remove name key ∉ edits ++ [last]) =
      ((start.keysOf name).filter fun key => Edit.remove name key ∉ edits).filter
        fun key => last ≠ .remove name key := by
    rw [List.filter_filter]
    congr 1
    funext key
    simp [and_comm, eq_comm]
  rw [keysAfter, keysAfter, ← eraseDups_filter, eraseDups_eraseDups_append, kept, standing_concat,
    List.filter_append, List.append_assoc]

theorem keysOf_foldl_edit (keyed : start.Keyed) (edits : List Edit) (name : String) :
    (edits.foldl edit start).keysOf name = keysAfter start edits name := by
  induction edits using List.reverseRecOn with
  | nil =>
    have distinct := (keyed.nodup_keysOf name).1
    simp [keysAfter, standing, eraseDups_of_nodup distinct]
  | append_singleton edits last ih =>
    rw [List.foldl_concat, keysAfter_concat, ← ih]
    exact keysOf_edit (keyed_foldl_edit keyed edits) last name

theorem Keyed.eq_tabulate (keyed : document.Keyed) {content : Section}
    (member : content ∈ document.sections) :
    content = .tabulate content.name (document.keysOf content.name)
      (document.value? content.name) := by
  have found := keyed.section?_of_mem member
  have values : document.value? content.name = content.get? := by
    funext key
    rw [value?, found, Option.bind_some]
  have keys : document.keysOf content.name = content.keys := by
    rw [keysOf, found]
    rfl
  rw [values, keys]
  exact (keyed.sections content member).eq_tabulate

theorem eq_sectionAfter (keyed : start.Keyed) {content : Section}
    (member : content ∈ (edits.foldl edit start).sections) :
    content = sectionAfter start edits content.name := by
  have values : (edits.foldl edit start).value? content.name =
      valueAfter start edits content.name :=
    funext fun key => value?_foldl_edit keyed edits content.name key
  rw [sectionAfter, ← values, ← keysOf_foldl_edit keyed]
  exact (keyed_foldl_edit keyed edits).eq_tabulate member

theorem Start.keyed (start : Start) : start.document.Keyed := by
  cases start with
  | blank => exact keyed_empty
  | scanned text => exact (canonical_scan text).keyed

/-- Whatever is done to a document, it is the map of maps that the history tells. What the next
edit answers goes by that map, and it changes nothing but the section and key that it is about. -/
theorem edits_exact (start : Start) (edits : List Edit) :
    let before := start.document
    let document := edits.foldl edit before
    document.sections = (namesAfter before edits).map (sectionAfter before edits) ∧
    document.names.Nodup ∧ document.size = (namesAfter before edits).length ∧
    (∀ name, document.section? name =
      if name ∈ namesAfter before edits then some (sectionAfter before edits name) else none) ∧
    (∀ content ∈ document.sections,
      content.keys = keysAfter before edits content.name ∧ content.keys.Nodup ∧
      "" ∉ content.keys ∧ content.size = content.keys.length ∧
      ∀ key, content.get? key = valueAfter before edits content.name key ∧
        (content.contains key = true ↔ key ∈ content.keys)) ∧
    (∀ name key value, document.Takes name key value ∧
      (document.remove name key).1 = valueAfter before edits name key) ∧
    ∀ change : Edit,
      (∀ other, other ≠ change.title →
        (document.edit change).section? other = document.section? other) ∧
      ∀ key, change.key? ≠ some key →
        ∀ name, (document.edit change).value? name key = document.value? name key := by
  intro before document
  have keyed : document.Keyed := keyed_foldl_edit start.keyed edits
  have names : document.names = namesAfter before edits := names_foldl_edit start.keyed edits
  have told : ∀ content ∈ document.sections, content = sectionAfter before edits content.name :=
    fun content member => eq_sectionAfter start.keyed member
  have values (name key : String) : document.value? name key = valueAfter before edits name key :=
    value?_foldl_edit start.keyed edits name key
  refine ⟨?_, keyed.distinct, ?_, fun name => ?_, fun content member => ?_,
    fun name key value => ⟨keyed.takes name key value, ?_⟩,
    fun change => ⟨fun other apart => ?_, fun key apart name => ?_⟩⟩
  · rw [← names, Document.names, List.map_map]
    exact (List.map_id' _).symm.trans (List.map_congr_left told)
  · rw [← names, size, Document.names, List.length_map]
  · rw [← names]
    split
    next known =>
      obtain ⟨content, member, rfl⟩ := List.mem_map.1 known
      rw [← told content member]
      exact keyed.section?_of_mem member
    next fresh =>
      rw [← section?_isSome_iff] at fresh
      simpa using fresh
  · have found := keyed.section?_of_mem member
    have inner := keyed.sections content member
    refine ⟨?_, inner.distinct, inner.nonempty, (List.length_map _).symm, fun key => ⟨?_, ?_⟩⟩
    · rw [← keysOf_foldl_edit start.keyed, keysOf, found]
      rfl
    · rw [← values, value?, found, Option.bind_some]
    · exact Section.mem_keys_iff.symm
  · exact (document.remove_fst name key).trans (values name key)
  · exact section?_edit_of_ne keyed apart
  · exact value?_edit_of_ne keyed apart name

end Document

end IniSettings
