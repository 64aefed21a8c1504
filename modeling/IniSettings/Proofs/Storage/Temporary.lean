import IniSettings.Proofs.Storage.Path

/-!
# Temporary siblings do not collide

What a path is can be told from its temporary sibling: either a file name was made longer, or the
suffix alone stands as a name, and no file name is empty. So two paths have one sibling only if
they are one path.
-/

namespace IniSettings.Path

variable {path other : Path} {name : String}

theorem normal_mem_named {pieces : List (List Char)} (member : .normal name ∈ named pieces) :
    isIdle name.toList = false := by
  obtain ⟨piece, inside, normal⟩ := List.mem_map.1 member
  rw [← componentOf_eq_normal normal]
  simpa using (List.mem_filter.1 inside).2

theorem name_ne_of_mem_components (member : .normal name ∈ path.components) : name ≠ "" := by
  rintro rfl
  obtain ⟨⟨lead, pieces⟩, split⟩ : ∃ split, path.split = split := ⟨_, rfl⟩
  rw [components_of_split split, List.mem_append] at member
  rcases member with outside | inside
  · cases lead <;> simp [Lead.components] at outside
  · exact absurd (normal_mem_named inside) (by decide)

theorem fileName?_of_concat {before : List Component}
    (whole : path.components = before ++ [.normal name]) : path.fileName? = some name := by
  rw [fileName?, whole, List.getLast?_concat]

/-- The sibling of the path has that name with the suffix, after those components. The name is
empty if the path has none of its own. -/
inductive Extends (path : Path) (before : List Component) : (name : String) → Prop where
  | bare (whole : path.components = before) : Extends path before ""
  | file {name : String} (named : name ≠ "") (whole : path.components = before ++ [.normal name]) :
    Extends path before name

theorem exists_extends (path : Path) :
    ∃ before name, path.Extends before name ∧
      path.temporary.components = before ++ [.normal (name ++ ".tmp")] := by
  have longer := components_temporary path
  cases file : path.fileName? with
  | none =>
    rw [file] at longer
    exact ⟨path.components, "", .bare rfl, longer⟩
  | some name =>
    obtain ⟨-, parent, -, whole⟩ := components_parent file
    have member : .normal name ∈ path.components := by
      rw [whole]
      exact List.mem_append_right _ (List.mem_singleton_self _)
    have named : name ≠ "" := name_ne_of_mem_components member
    rw [file, whole, List.dropLast_concat] at longer
    exact ⟨parent.components, name, .file named whole, longer⟩

theorem Extends.same {before : List Component} (first : path.Extends before name)
    (second : other.Extends before name) : path.Same other := by
  cases first with
  | bare whole =>
    cases second with
    | bare whole' => exact whole.trans whole'.symm
    | file named => exact absurd rfl named
  | file named whole =>
    cases second with
    | bare => exact absurd rfl named
    | file _ whole' => exact whole.trans whole'.symm

theorem same_temporary_iff : path.temporary.Same other.temporary ↔ path.Same other := by
  constructor
  · intro same
    obtain ⟨before, name, first, longer⟩ := exists_extends path
    obtain ⟨before', name', second, longer'⟩ := exists_extends other
    rw [Same, longer, longer'] at same
    obtain ⟨rfl, last⟩ := List.append_inj' same rfl
    obtain rfl : name = name' := by
      simpa [← String.toList_inj] using last
    exact first.same second
  · intro same
    rw [Same, components_temporary, components_temporary, fileName?, fileName?, same]

theorem fileName?_temporary (file : path.fileName? = some name) :
    path.temporary.fileName? = some (name ++ ".tmp") := by
  have longer := components_temporary path
  rw [file] at longer
  exact fileName?_of_concat longer

theorem same_parent_temporary (file : path.fileName? = some name) :
    ∃ parent sibling, path.parent? = some parent ∧ path.temporary.parent? = some sibling ∧
      sibling.Same parent := by
  obtain ⟨-, parent, found, whole⟩ := components_parent file
  obtain ⟨-, sibling, found', whole'⟩ := components_parent (fileName?_temporary file)
  have longer := components_temporary path
  rw [file, whole, List.dropLast_concat, whole'] at longer
  exact ⟨parent, sibling, found, found', (List.append_inj' longer rfl).1⟩

theorem temporary_exact (path : Path) :
    ¬ path.temporary.Same path ∧
    (∀ other : Path, path.temporary.Same other.temporary ↔ path.Same other) ∧
    (path.fileName? = none → path.temporary.components = path.components ++ [.normal ".tmp"]) ∧
    ∀ name, path.fileName? = some name →
      path.temporary.fileName? = some (name ++ ".tmp") ∧
      ∃ parent sibling, path.parent? = some parent ∧ path.temporary.parent? = some sibling ∧
        sibling.Same parent := by
  refine ⟨not_same_temporary path, fun other => same_temporary_iff, ?bare, ?file⟩
  case bare =>
    intro nameless
    rw [components_temporary, nameless]
  case file =>
    intro name file
    exact ⟨fileName?_temporary file, same_parent_temporary file⟩

example :
    (⟨"a//b/.."⟩ : Path).temporary = ⟨"a//b/../.tmp"⟩ ∧ (⟨"/"⟩ : Path).temporary = ⟨"/.tmp"⟩ ∧
      (⟨"./b/./"⟩ : Path).temporary = ⟨"./b.tmp"⟩ := by
  decide +kernel

end IniSettings.Path
