import IniSettings.Document.Basic
import IniSettings.Proofs.Lookup

/-!
# Documents as maps

The names of the sections of a document are distinct, and so are the keys of a section, none of
which is empty. Every operation keeps that, so it holds of each document that is built by them.
-/

namespace IniSettings

structure Section.Keyed (content : Section) : Prop where
  distinct : content.keys.Nodup
  nonempty : "" ∉ content.keys

structure Document.Keyed (document : Document) : Prop where
  distinct : document.names.Nodup
  sections : ∀ content ∈ document.sections, content.Keyed

namespace Section

theorem lookup_assignPair (key value other : String) (pairs : List (String × String)) :
    (assignPair key value pairs).lookup other =
      if other = key then some value else pairs.lookup other := by
  induction pairs with
  | nil => simp only [assignPair, lookup_cons_eq_if]
  | cons pair rest ih =>
    obtain ⟨first, old⟩ := pair
    by_cases same : first = key
    · subst same
      simp only [assignPair, lookup_cons_eq_if, if_true]
      split <;> rfl
    · simp only [assignPair, same, if_false, lookup_cons_eq_if, ih]
      by_cases found : other = first
      · simp [found, same]
      · simp [found]

theorem mem_assignPair {key value : String} {pair : String × String}
    {pairs : List (String × String)} (member : pair ∈ assignPair key value pairs) :
    pair = (key, value) ∨ pair ∈ pairs := by
  induction pairs with
  | nil => exact .inl (List.mem_singleton.1 member)
  | cons first rest ih =>
    unfold assignPair at member
    split at member
    next => exact (List.mem_cons.1 member).imp_right (List.mem_cons_of_mem _)
    next =>
      rcases List.mem_cons.1 member with rfl | later
      · exact .inr List.mem_cons_self
      · exact (ih later).imp_right (List.mem_cons_of_mem _)

theorem assignPair_of_not_mem {key : String} (value : String) {pairs : List (String × String)}
    (fresh : key ∉ pairs.map Prod.fst) : assignPair key value pairs = pairs ++ [(key, value)] := by
  induction pairs with
  | nil => rfl
  | cons first rest ih =>
    rw [List.map_cons, List.mem_cons, not_or] at fresh
    rw [assignPair, if_neg (Ne.symm fresh.1), ih fresh.2, List.cons_append]

theorem keys_assignPair (key value : String) (pairs : List (String × String)) :
    (assignPair key value pairs).map Prod.fst =
      if key ∈ pairs.map Prod.fst then pairs.map Prod.fst else pairs.map Prod.fst ++ [key] := by
  induction pairs with
  | nil => rfl
  | cons first rest ih =>
    by_cases found : first.1 = key
    · simp [assignPair, found]
    · simp only [assignPair, found, if_false, List.map_cons, ih, List.mem_cons,
        Ne.symm found, false_or]
      split <;> rfl

theorem get?_assign (content : Section) (key value other : String) :
    (content.assign key value).get? other =
      if other = key then some value else content.get? other :=
  lookup_assignPair key value other content.pairs

theorem exists_get? {content : Section} {key : String} (member : key ∈ content.keys) :
    ∃ value, content.get? key = some value ∧ (key, value) ∈ content.pairs :=
  exists_lookup member

theorem Keyed.get?_of_mem {content : Section} (keyed : content.Keyed) {key value : String}
    (member : (key, value) ∈ content.pairs) : content.get? key = some value :=
  lookup_of_mem keyed.distinct member

theorem keyed_empty (name : String) : (Section.empty name).Keyed :=
  ⟨List.nodup_nil, List.not_mem_nil⟩

theorem Keyed.assign {content : Section} (keyed : content.Keyed) {key : String}
    (nonempty : key ≠ "") (value : String) : (content.assign key value).Keyed := by
  have keys : (content.assign key value).keys =
      if key ∈ content.keys then content.keys else content.keys ++ [key] :=
    keys_assignPair key value content.pairs
  refine ⟨?_, ?_⟩ <;> rw [keys] <;> split
  next => exact keyed.distinct
  next fresh =>
    refine List.nodup_append.2 ⟨keyed.distinct, List.pairwise_singleton _ _, ?_⟩
    intro other member last isLast same
    rw [List.mem_singleton] at isLast
    exact fresh (isLast ▸ same ▸ member)
  next => exact keyed.nonempty
  next => simpa [keyed.nonempty] using Ne.symm nonempty

theorem Keyed.remove {content : Section} (keyed : content.Keyed) (key : String) :
    (content.remove key).2.Keyed := by
  have part : (content.remove key).2.keys.Sublist content.keys := List.eraseP_sublist.map _
  exact ⟨part.nodup keyed.distinct, fun member => keyed.nonempty (part.subset member)⟩

end Section

namespace Document

theorem openSection_of_not_mem {document : Document} {name : String}
    (fresh : name ∉ document.names) :
    document.openSection name =
      (⟨document.sections ++ [Section.empty name]⟩, document.sections.length) := by
  have missing : (document.sections.findIdx? fun content => content.name == name) = none := by
    refine List.findIdx?_eq_none_iff.2 fun content member => ?_
    simpa using fun same : content.name = name => fresh (same ▸ List.mem_map_of_mem member)
  rw [openSection, missing]

theorem openSection_of_mem {document : Document} {name : String} (known : name ∈ document.names) :
    (document.openSection name).1 = document := by
  obtain ⟨content, member, same⟩ := List.mem_map.1 known
  have present : (document.sections.any fun content => content.name == name) = true :=
    List.any_eq_true.2 ⟨content, member, by simpa using same⟩
  rw [← List.findIdx?_isSome] at present
  obtain ⟨index, found⟩ := Option.isSome_iff_exists.1 present
  rw [openSection, found]

theorem mem_openSection {document : Document} {name : String} {content : Section}
    (member : content ∈ (document.openSection name).1.sections) :
    content = Section.empty name ∨ content ∈ document.sections := by
  by_cases known : name ∈ document.names
  · rw [openSection_of_mem known] at member
    exact .inr member
  · rw [openSection_of_not_mem known] at member
    simpa [or_comm] using member

theorem mem_modifyAt {document : Document} {index : Nat} {change : Section → Section}
    {content : Section} (member : content ∈ (document.modifyAt index change).sections) :
    content ∈ document.sections ∨ ∃ old ∈ document.sections, content = change old := by
  obtain ⟨place, found⟩ := List.mem_iff_getElem?.1 member
  rw [modifyAt, List.getElem?_modify] at found
  split at found
  next =>
    obtain ⟨old, there, rfl⟩ := Option.map_eq_some_iff.1 found
    exact .inr ⟨old, List.mem_of_getElem? there, rfl⟩
  next => exact .inl (List.mem_of_getElem? (by simpa using found))

theorem names_modifyAt (document : Document) (index : Nat) {change : Section → Section}
    (named : ∀ content, (change content).name = content.name) :
    (document.modifyAt index change).names = document.names := by
  refine List.ext_getElem? fun place => ?_
  simp only [names, modifyAt, List.getElem?_map, List.getElem?_modify]
  cases document.sections[place]? with
  | none => rfl
  | some content =>
    show some (if index = place then change content else content).name = some content.name
    split
    next => rw [named]
    next => rfl

theorem keyed_empty : Document.empty.Keyed :=
  ⟨List.nodup_nil, fun _ member => absurd member List.not_mem_nil⟩

theorem Keyed.openSection {document : Document} (keyed : document.Keyed) (name : String) :
    (document.openSection name).1.Keyed := by
  refine ⟨?_, fun content member => ?_⟩
  · by_cases known : name ∈ document.names
    · rw [openSection_of_mem known]
      exact keyed.distinct
    · rw [openSection_of_not_mem known]
      simp only [names, List.map_append, List.map_cons, List.map_nil]
      refine List.nodup_append.2 ⟨keyed.distinct, List.pairwise_singleton _ _, ?_⟩
      intro other member last isLast same
      obtain rfl : last = name := List.mem_singleton.1 isLast
      exact known (same ▸ member)
  · rcases mem_openSection member with rfl | old
    · exact Section.keyed_empty name
    · exact keyed.sections content old

theorem Keyed.modifyAt {document : Document} (keyed : document.Keyed) (index : Nat)
    {change : Section → Section} (named : ∀ content, (change content).name = content.name)
    (kept : ∀ content : Section, content.Keyed → (change content).Keyed) :
    (document.modifyAt index change).Keyed := by
  refine ⟨(names_modifyAt document index named).symm ▸ keyed.distinct, fun content member => ?_⟩
  rcases mem_modifyAt member with old | ⟨old, there, rfl⟩
  · exact keyed.sections content old
  · exact kept old (keyed.sections old there)

theorem Keyed.section?_of_mem {document : Document} (keyed : document.Keyed) {content : Section}
    (member : content ∈ document.sections) : document.section? content.name = some content := by
  unfold section?
  cases found : document.sections.find? fun other => other.name == content.name with
  | none => simpa using List.find?_eq_none.1 found content member
  | some other =>
    have same : other.name = content.name := by simpa using List.find?_some found
    exact congrArg some
      (List.inj_on_of_nodup_map keyed.distinct (List.mem_of_find?_eq_some found) member same)

@[simp] theorem section?_singleton (content : Section) :
    (Document.mk [content]).section? content.name = some content := by
  simp [section?]

theorem setAt_eq (document : Document) (index : Nat) {key : String} (nonempty : key ≠ "")
    (value : String) :
    document.setAt index key value =
      .ok (document.modifyAt index fun content => content.assign key value) := by
  unfold setAt
  cases there : document.sections[index]? with
  | none =>
    have outside : document.sections.length ≤ index := List.getElem?_eq_none_iff.1 there
    simp [modifyAt, List.modify_eq_self outside]
  | some content =>
    simp only [Section.set, nonempty, if_false, Except.map, modifyAt]
    congr 2
    refine List.ext_getElem? fun place => ?_
    simp only [List.getElem?_modify]
    by_cases here : index = place
    · subst here
      simp [there]
    · simp [here]

theorem set_eq (document : Document) (name key value : String) :
    (document.set name key value).2 =
      if key = "" then (document.openSection name).1
      else (document.openSection name).1.modifyAt (document.openSection name).2
        fun content => content.assign key value := by
  unfold set
  by_cases empty : key = ""
  · subst empty
    simp only [setAt, Section.set, if_true]
    split
    next refused => rfl
    next changed accepted =>
      split at accepted
      next => exact (Except.ok.inj accepted).symm
      next => cases accepted
  · simp only [setAt_eq _ _ empty, empty, if_false]

theorem Keyed.edit {document : Document} (keyed : document.Keyed) (change : Edit) :
    (document.edit change).Keyed := by
  cases change with
  | insert name => exact keyed.openSection name
  | set name key value =>
    rw [Document.edit, set_eq]
    split
    next => exact keyed.openSection name
    next nonempty =>
      exact (keyed.openSection name).modifyAt _ (fun _ => rfl)
        fun content kept => kept.assign nonempty value
  | remove name key =>
    show (document.remove name key).2.Keyed
    unfold Document.remove
    split
    next => exact keyed
    next index _ => exact keyed.modifyAt index (fun _ => rfl) fun content kept => kept.remove key

theorem keyed_build (edits : List Edit) : (build edits).Keyed := by
  suffices ∀ document : Document, document.Keyed → (edits.foldl edit document).Keyed from
    this _ keyed_empty
  induction edits with
  | nil => exact fun _ keyed => keyed
  | cons change rest ih => exact fun document keyed => ih _ (keyed.edit change)

end Document

end IniSettings
