import IniSettings.Proofs.Document.Assignments

/-!
# Editing a document

What one edit does to the sections of a document, and by that to their names, their keys and the
values of these: the edit of one key leaves all others as they were. An edit of an empty key is
refused, and the section in which it was to be is there all the same.
-/

namespace IniSettings

namespace Section

/-- The section with those keys, in their order, and what a map has for them. -/
def tabulate (name : String) (keys : List String) (value? : String → Option String) :
    Section :=
  ⟨name, keys.filterMap fun key => (value? key).map (key, ·)⟩

theorem keys_assign (content : Section) (key value : String) :
    (content.assign key value).keys =
      if key ∈ content.keys then content.keys else content.keys ++ [key] :=
  keys_assignPair key value content.pairs

theorem keys_remove (content : Section) (key : String) :
    (content.remove key).2.keys = content.keys.erase key := by
  rw [List.erase_eq_eraseP', keys, keys, List.eraseP_map]
  rfl

theorem lookup_eraseP {pairs : List (String × String)} (distinct : (pairs.map Prod.fst).Nodup)
    (key other : String) :
    (pairs.eraseP fun pair => pair.1 == key).lookup other =
      if other = key then none else pairs.lookup other := by
  induction pairs with
  | nil => simp
  | cons pair rest ih =>
    obtain ⟨first, value⟩ := pair
    rw [List.map_cons, List.nodup_cons] at distinct
    by_cases here : first = key
    · subst here
      rw [List.eraseP_cons_of_pos (by simp), lookup_cons_eq_if]
      split
      next same =>
        refine List.lookup_eq_none_iff.2 fun pair member => ?_
        have apart : first ≠ pair.1 := by
          rintro rfl
          exact distinct.1 (List.mem_map.2 ⟨pair, member, rfl⟩)
        simpa [same] using apart
      next => rfl
    · rw [List.eraseP_cons_of_neg (by simpa using here), lookup_cons_eq_if, lookup_cons_eq_if,
        ih distinct.2]
      by_cases same : other = first
      · simp [same, here]
      · simp [same]

theorem Keyed.get?_remove {content : Section} (keyed : content.Keyed) (key other : String) :
    (content.remove key).2.get? other = if other = key then none else content.get? other :=
  lookup_eraseP keyed.distinct key other

theorem mem_keys_iff {content : Section} {key : String} :
    key ∈ content.keys ↔ content.contains key = true := by
  constructor
  · intro member
    obtain ⟨value, found, -⟩ := exists_get? member
    rw [contains, found]
    rfl
  · intro there
    obtain ⟨value, found⟩ := Option.isSome_iff_exists.1 there
    exact List.mem_map_of_mem (mem_of_lookup found)

theorem Keyed.eq_tabulate {content : Section} (keyed : content.Keyed) :
    content = .tabulate content.name content.keys content.get? := by
  have found : ∀ pair ∈ content.pairs, (content.get? pair.1).map (pair.1, ·) = some pair := by
    intro pair member
    rw [keyed.get?_of_mem member]
    rfl
  have pairs : content.keys.filterMap (fun key => (content.get? key).map (key, ·)) =
      content.pairs := by
    rw [keys, List.filterMap_map]
    exact (List.filterMap_congr found).trans List.filterMap_some
  rw [tabulate, pairs]

end Section

namespace Document

def keysOf (document : Document) (name : String) : List String :=
  ((document.section? name).map Section.keys).getD []

def pairsOf (document : Document) (name : String) : List (String × String) :=
  ((document.section? name).map Section.pairs).getD []

namespace Edit

def title : Edit → String
  | .insert name | .set name _ _ | .remove name _ => name

def key? : Edit → Option String
  | .insert _ => none
  | .set _ key _ | .remove _ key => some key

def created? : Edit → Option String
  | .insert name | .set name _ _ => some name
  | .remove _ _ => none

def setIn? (name : String) : Edit → Option String
  | .set other key _ => if other = name ∧ key ≠ "" then some key else none
  | _ => none

/-- What the edit leaves under the key, unless it is not about that key. -/
def verdict? (name key : String) : Edit → Option (Option String)
  | .insert _ => none
  | .set other changed value =>
    if other = name ∧ changed = key ∧ changed ≠ "" then some (some value) else none
  | .remove other changed => if other = name ∧ changed = key then some none else none

end Edit

variable {document : Document} {name key : String}

/-! ## Sections -/

theorem section?_openSection (document : Document) (name other : String) :
    (document.openSection name).1.section? other =
      if other = name then some ((document.section? name).getD (Section.empty name))
      else document.section? other := by
  by_cases known : name ∈ document.names
  · obtain ⟨content, found⟩ := Option.isSome_iff_exists.1 (section?_isSome_iff.2 known)
    rw [openSection_of_mem known]
    split
    next same => rw [same, found, Option.getD_some]
    next => rfl
  · have missing : document.section? name = none := by
      rw [← Option.not_isSome_iff_eq_none, section?_isSome_iff]
      exact known
    rw [openSection_of_not_mem known, missing, Option.getD_none]
    by_cases same : other = name
    · subst same
      rw [section?] at missing
      simp [section?, List.find?_append, missing, Section.empty]
    · simp [section?, List.find?_append, Section.empty, same, Ne.symm same]

theorem section?_set (keyed : document.Keyed) (name key value other : String) :
    (document.set name key value).2.section? other =
      if other = name then
        let content := (document.section? name).getD (Section.empty name)
        some (if key = "" then content else content.assign key value)
      else document.section? other := by
  rw [set_eq]
  by_cases empty : key = ""
  · rw [if_pos empty, section?_openSection]
    simp [empty]
  · have opened := keyed.openSection name
    obtain ⟨content, there, named⟩ := document.openSection_there name
    have found := opened.section?_of_mem (List.mem_of_getElem? there)
    rw [named, section?_openSection, if_pos rfl] at found
    rw [if_neg empty, section?_modifyAt opened.distinct there
      (fun content => content.assign key value) (fun _ => rfl), section?_openSection, named]
    by_cases same : other = name
    · simp [same, empty, Option.some.inj found]
    · simp [same, Ne.symm same]

theorem section?_eq_none_of_findIdx? (nowhere :
    (document.sections.findIdx? fun content => content.name == name) = none) :
    document.section? name = none := by
  rw [section?, List.find?_eq_none]
  simpa using nowhere

theorem section?_remove (keyed : document.Keyed) (name key other : String) :
    (document.remove name key).2.section? other =
      if other = name then (document.section? name).map fun content => (content.remove key).2
      else document.section? other := by
  unfold remove
  split
  next nowhere =>
    split
    next same => rw [same, section?_eq_none_of_findIdx? nowhere, Option.map_none]
    next => rfl
  next index place =>
    obtain ⟨within, named, -⟩ := List.findIdx?_eq_some_iff_getElem.1 place
    have there := List.getElem?_eq_getElem within
    generalize document.sections[index] = content at named there
    obtain rfl : content.name = name := by simpa using named
    rw [section?_modifyAt keyed.distinct there (fun content => (content.remove key).2)
      (fun _ => rfl), keyed.section?_of_mem (List.mem_of_getElem? there)]
    by_cases same : other = content.name
    · simp [same]
    · simp [same, Ne.symm same]

theorem section?_edit_of_ne (keyed : document.Keyed) {change : Edit} {other : String}
    (apart : other ≠ change.title) :
    (document.edit change).section? other = document.section? other := by
  cases change with
  | insert name => exact (document.section?_openSection name other).trans (if_neg apart)
  | set name key value => exact (section?_set keyed name key value other).trans (if_neg apart)
  | remove name key => exact (section?_remove keyed name key other).trans (if_neg apart)

theorem Keyed.of_section? (keyed : document.Keyed) {content : Section}
    (found : document.section? name = some content) : content.Keyed :=
  keyed.sections content (List.mem_of_find?_eq_some found)

theorem get?_getD_section? (document : Document) (name key : String) :
    ((document.section? name).getD (Section.empty name)).get? key = document.value? name key := by
  rw [value?]
  cases document.section? name <;> rfl

theorem keys_getD_section? (document : Document) (name : String) :
    ((document.section? name).getD (Section.empty name)).keys = document.keysOf name := by
  rw [keysOf]
  cases document.section? name <;> rfl

/-! ## What an edit does to names, keys and values -/

theorem names_openSection (document : Document) (name : String) :
    (document.openSection name).1.names =
      if name ∈ document.names then document.names else document.names ++ [name] := by
  split
  next known => rw [openSection_of_mem known]
  next fresh =>
    rw [openSection_of_not_mem fresh]
    simp [names, Section.empty]

theorem names_edit (document : Document) (change : Edit) :
    (document.edit change).names =
      match change.created? with
      | none => document.names
      | some name =>
        if name ∈ document.names then document.names else document.names ++ [name] := by
  cases change with
  | insert name => exact document.names_openSection name
  | set name key value =>
    show (document.set name key value).2.names = _
    rw [set_eq]
    split
    next => exact document.names_openSection name
    next =>
      exact (names_modifyAt _ _ (fun _ => rfl : ∀ content : Section,
        (content.assign key value).name = content.name)).trans (document.names_openSection name)
  | remove name key =>
    show (document.remove name key).2.names = _
    unfold remove
    split
    next => rfl
    next index _ => exact names_modifyAt document index fun _ => rfl

theorem value?_set (keyed : document.Keyed) (title changed value name key : String) :
    (document.set title changed value).2.value? name key =
      if title = name ∧ changed = key ∧ changed ≠ "" then some value
      else document.value? name key := by
  rw [value?, section?_set keyed]
  by_cases here : title = name
  · subst here
    simp only [if_true, Option.bind_some, true_and]
    by_cases empty : changed = ""
    · simp [empty, get?_getD_section?]
    · simp only [if_neg empty, Section.get?_assign, get?_getD_section?]
      simp [empty, eq_comm]
  · rw [if_neg (Ne.symm here), if_neg fun about => here about.1, value?]

theorem value?_remove (keyed : document.Keyed) (title removed name key : String) :
    (document.remove title removed).2.value? name key =
      if title = name ∧ removed = key then none else document.value? name key := by
  rw [value?, section?_remove keyed, value?]
  by_cases here : title = name
  · subst here
    cases found : document.section? title with
    | none => simp
    | some content => simp [(keyed.of_section? found).get?_remove removed key, eq_comm]
  · rw [if_neg (Ne.symm here), if_neg fun about => here about.1]

theorem value?_edit (keyed : document.Keyed) (change : Edit) (name key : String) :
    (document.edit change).value? name key =
      (change.verdict? name key).getD (document.value? name key) := by
  cases change with
  | insert title => exact document.value?_openSection title name key
  | set title changed value =>
    refine (value?_set keyed title changed value name key).trans ?_
    rw [Edit.verdict?]
    split <;> rfl
  | remove title removed =>
    refine (value?_remove keyed title removed name key).trans ?_
    rw [Edit.verdict?]
    split <;> rfl

theorem value?_edit_of_ne (keyed : document.Keyed) {change : Edit} {key : String}
    (apart : change.key? ≠ some key) (name : String) :
    (document.edit change).value? name key = document.value? name key := by
  rw [value?_edit keyed]
  cases change with
  | insert title => rfl
  | set title changed value =>
    have other : changed ≠ key := fun same => apart (congrArg some same)
    simp [Edit.verdict?, other]
  | remove title removed =>
    have other : removed ≠ key := fun same => apart (congrArg some same)
    simp [Edit.verdict?, other]

theorem keysOf_openSection (document : Document) (title name : String) :
    (document.openSection title).1.keysOf name = document.keysOf name := by
  rw [keysOf, section?_openSection]
  split
  next same =>
    subst same
    exact document.keys_getD_section? name
  next => rfl

theorem keysOf_set (keyed : document.Keyed) (title changed value name : String) :
    (document.set title changed value).2.keysOf name =
      if title = name ∧ changed ≠ "" ∧ changed ∉ document.keysOf name
      then document.keysOf name ++ [changed] else document.keysOf name := by
  rw [keysOf, section?_set keyed]
  by_cases here : title = name
  · subst here
    rw [if_pos rfl]
    show (if changed = "" then _ else _ : Section).keys = _
    by_cases empty : changed = ""
    · simp [empty, keys_getD_section?]
    · rw [if_neg empty, Section.keys_assign, keys_getD_section?]
      by_cases known : changed ∈ document.keysOf title <;> simp [empty, known]
  · rw [if_neg (Ne.symm here), if_neg fun about => here about.1, keysOf]

theorem keysOf_remove (keyed : document.Keyed) (title removed name : String) :
    (document.remove title removed).2.keysOf name =
      if title = name then (document.keysOf name).erase removed else document.keysOf name := by
  rw [keysOf, section?_remove keyed, keysOf]
  by_cases here : title = name
  · subst here
    cases document.section? title with
    | none => simp
    | some content => simp [Section.keys_remove]
  · rw [if_neg (Ne.symm here), if_neg here]

theorem Keyed.nodup_keysOf (keyed : document.Keyed) (name : String) :
    (document.keysOf name).Nodup ∧ "" ∉ document.keysOf name := by
  rw [keysOf]
  cases found : document.section? name with
  | none => exact ⟨List.nodup_nil, List.not_mem_nil⟩
  | some content =>
    exact ⟨(keyed.of_section? found).distinct, (keyed.of_section? found).nonempty⟩

/-! ## What the next edit comes to -/

theorem set_fst (document : Document) (name key value : String) :
    (document.set name key value).1 = if key = "" then .error .emptyKey else .ok () := by
  obtain ⟨content, there, -⟩ := document.openSection_there name
  by_cases empty : key = ""
  · simp [set, setAt, there, Section.set, empty, Except.map]
  · simp [set, setAt_eq _ _ empty, empty]

theorem remove_fst (document : Document) (name key : String) :
    (document.remove name key).1 = document.value? name key := by
  unfold remove
  split
  next nowhere =>
    rw [value?, section?_eq_none_of_findIdx? nowhere]
    rfl
  next => rfl

theorem pairsOf_set_empty (keyed : document.Keyed) (title value name : String) :
    (document.set title "" value).2.pairsOf name = document.pairsOf name := by
  rw [pairsOf, section?_set keyed, pairsOf]
  split
  next same =>
    subst same
    cases document.section? name <;> rfl
  next => rfl

/-- What setting and removing a key answer, and where they leave it among the other keys. -/
structure Takes (document : Document) (name key value : String) : Prop where
  set_answer : (document.set name key value).1 = if key = "" then .error .emptyKey else .ok ()
  refused : ∀ other, (document.set name "" value).2.pairsOf other = document.pairsOf other
  overwritten : key ∈ document.keysOf name →
    (document.set name key value).2.keysOf name = document.keysOf name
  appended : key ≠ "" → key ∉ document.keysOf name →
    (document.set name key value).2.keysOf name = document.keysOf name ++ [key]
  remove_answer : (document.remove name key).1 = document.value? name key
  removed : (document.remove name key).2.keysOf name = (document.keysOf name).erase key

theorem Keyed.takes (keyed : document.Keyed) (name key value : String) :
    document.Takes name key value where
  set_answer := document.set_fst name key value
  refused other := pairsOf_set_empty keyed name value other
  overwritten known := by rw [keysOf_set keyed, if_neg fun fresh => fresh.2.2 known]
  appended nonempty fresh := by rw [keysOf_set keyed, if_pos ⟨rfl, nonempty, fresh⟩]
  remove_answer := document.remove_fst name key
  removed := by rw [keysOf_remove keyed, if_pos rfl]

end Document

end IniSettings
