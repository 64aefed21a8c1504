import IniSettings.Proofs.Text.Pieces
import IniSettings.Storage.Path
import Mathlib.Data.List.DropRight

/-!
# Components of paths

Cutting a path at its slashes is the library's `List.splitOn`. On components the operations on
paths are operations on lists: putting a name after a path appends it, and the temporary sibling
differs in its last component.
-/

namespace IniSettings.Path

theorem splitAtSlashes_eq (text : List Char) : splitAtSlashes text = text.splitOn '/' := by
  induction text with
  | nil => rfl
  | cons c rest ih =>
    rw [List.splitOn_cons_eq_if_modifyHead, splitAtSlashes, ih]
    by_cases slash : c = '/'
    · simp [slash]
    · obtain ⟨first, more, split⟩ := List.exists_cons_of_ne_nil (List.splitOn_ne_nil '/' rest)
      simp [slash, split]

/-! ## Components -/

def named (pieces : List (List Char)) : List Component :=
  (pieces.filter fun piece => !isIdle piece).map componentOf

/-- What the pieces of a path begin with before their names. -/
def leading (first : List Char) (rest : List (List Char)) : List Component :=
  if first = [] ∧ rest ≠ [] then [.root] else if first = ['.'] then [.current] else []

theorem named_append (pieces more : List (List Char)) :
    named (pieces ++ more) = named pieces ++ named more := by
  simp [named]

theorem named_cons_of_idle {piece : List Char} (idle : isIdle piece = true)
    (rest : List (List Char)) : named (piece :: rest) = named rest := by
  simp [named, idle]

theorem named_singleton {piece : List Char} (names : isIdle piece = false) :
    named [piece] = [componentOf piece] := by
  simp [named, names]

theorem components_eq {path : Path} {first : List Char} {rest : List (List Char)}
    (pieces : path.text.toList.splitOn '/' = first :: rest) :
    path.components = leading first rest ++ named (first :: rest) := by
  rw [components, split, splitAtSlashes_eq, pieces, leading]
  by_cases root : first = [] ∧ rest ≠ []
  · have idle : isIdle first = true := by simp [isIdle, root.1]
    simp only [root, and_self, ne_eq, not_false_eq_true, if_true]
    rw [← root.1, named_cons_of_idle idle]
    rfl
  · by_cases current : first = ['.']
    · subst current
      rw [named_cons_of_idle rfl]
      rfl
    · simp only [root, current, if_false]
      rfl

/-- A name that can stand as a piece of a path. -/
structure IsFileName (name : String) : Prop where
  no_slash : '/' ∉ name.toList
  not_idle : isIdle name.toList = false
  not_parent : name.toList ≠ ['.', '.']

theorem IsFileName.named {name : String} (isFileName : IsFileName name) :
    Path.named [name.toList] = [.normal name] := by
  rw [named_singleton isFileName.not_idle, componentOf, if_neg isFileName.not_parent,
    String.ofList_toList]

theorem components_push (path : Path) {name : String} (isFileName : IsFileName name) :
    (path.push name).components = path.components ++ [.normal name] := by
  have last := List.splitOn_eq_singleton isFileName.no_slash
  by_cases slashed : path.text = "" ∨ path.text.toList.getLast? = some '/'
  · rw [push, if_pos slashed]
    rcases slashed with empty | slash
    · have before : path.text.toList.splitOn '/' = [[]] := by rw [empty]; rfl
      have after : (path.text ++ name).toList.splitOn '/' = [name.toList] := by
        rw [empty, String.empty_append, last]
      rw [components_eq before, components_eq after, isFileName.named]
      have notCurrent : name.toList ≠ ['.'] := fun current => by
        simpa [isIdle, current] using isFileName.not_idle
      simp [leading, notCurrent, named, isIdle]
    · obtain ⟨inner, text⟩ : ∃ inner, path.text.toList = inner ++ ['/'] :=
        ⟨_, (List.dropLast_append_getLast? _ slash).symm⟩
      obtain ⟨first, rest, pieces⟩ := List.exists_cons_of_ne_nil (List.splitOn_ne_nil '/' inner)
      have before : path.text.toList.splitOn '/' = first :: (rest ++ [[]]) := by
        rw [text, List.splitOn_append_cons_self, pieces]
        rfl
      have after : (path.text ++ name).toList.splitOn '/' = first :: (rest ++ [name.toList]) := by
        rw [String.toList_append, text, List.append_assoc, List.singleton_append,
          List.splitOn_append_cons_self, pieces, last]
        rfl
      rw [components_eq before, components_eq after, ← List.cons_append, ← List.cons_append,
        named_append, named_append, isFileName.named]
      simp [leading, named, isIdle]
  · rw [push, if_neg slashed]
    obtain ⟨first, rest, pieces⟩ :=
      List.exists_cons_of_ne_nil (List.splitOn_ne_nil '/' path.text.toList)
    have after : (path.text ++ "/" ++ name).toList.splitOn '/' =
        first :: (rest ++ [name.toList]) := by
      rw [String.toList_append, String.toList_append, List.append_assoc]
      show (path.text.toList ++ '/' :: name.toList).splitOn '/' = _
      rw [List.splitOn_append_cons_self, pieces, last]
      rfl
    have notBlank : ¬ (first = [] ∧ rest = []) := by
      rintro ⟨rfl, rfl⟩
      have empty : ['/'].intercalate (path.text.toList.splitOn '/') = path.text.toList :=
        List.intercalate_splitOn '/'
      rw [pieces] at empty
      exact slashed (.inl (String.toList_inj.1 empty.symm))
    rw [components_eq pieces, components_eq after, ← List.cons_append, named_append,
      isFileName.named, ← List.append_assoc]
    have same : leading first (rest ++ [name.toList]) = leading first rest := by
      by_cases empty : first = []
      · have more : rest ≠ [] := fun alone => notBlank ⟨empty, alone⟩
        simp [leading, empty, more]
      · simp [leading, empty]
    rw [same]

/-! ## Parents -/

def Lead.components : Lead → List Component
  | .none => []
  | .root => [.root]
  | .current => [.current]

theorem components_of_split {path : Path} {lead : Lead} {pieces : List (List Char)}
    (split : path.split = (lead, pieces)) : path.components = lead.components ++ named pieces := by
  rw [components, split]
  cases lead <;> rfl

theorem slash_not_mem_of_split {path : Path} {lead : Lead} {pieces : List (List Char)}
    (split : path.split = (lead, pieces)) : ∀ piece ∈ pieces, '/' ∉ piece := by
  obtain ⟨first, rest, cut⟩ :=
    List.exists_cons_of_ne_nil (List.splitOn_ne_nil '/' path.text.toList)
  have inner : ∀ piece ∈ first :: rest, '/' ∉ piece := fun piece member =>
    Text.mark_not_mem (cut ▸ member)
  have innerRest : ∀ piece ∈ rest, '/' ∉ piece := fun piece later =>
    inner piece (List.mem_cons_of_mem _ later)
  simp only [Path.split, splitAtSlashes_eq, cut] at split
  split at split
  next => exact (Prod.mk.inj split).2 ▸ innerRest
  next =>
    split at split
    next => exact (Prod.mk.inj split).2 ▸ innerRest
    next => exact (Prod.mk.inj split).2 ▸ inner

theorem head_of_split {path : Path} {first : List Char} {rest : List (List Char)}
    (split : path.split = (.none, first :: rest)) :
    first ≠ ['.'] ∧ (first = [] → rest = []) := by
  obtain ⟨head, tail, cut⟩ :=
    List.exists_cons_of_ne_nil (List.splitOn_ne_nil '/' path.text.toList)
  simp only [Path.split, splitAtSlashes_eq, cut] at split
  split at split
  next => simp at split
  next root =>
    split at split
    next => simp at split
    next current =>
      obtain ⟨rfl, rfl⟩ := List.cons.inj (Prod.mk.inj split).2
      exact ⟨current, fun empty => by_contra fun more => root ⟨empty, more⟩⟩

theorem named_trimIdle (pieces : List (List Char)) : named (trimIdle pieces) = named pieces := by
  induction pieces using List.reverseRecOn with
  | nil => rfl
  | append_singleton pieces piece ih =>
    change named ((pieces ++ [piece]).rdropWhile isIdle) = _
    by_cases idle : isIdle piece = true
    · rw [List.rdropWhile_concat_pos _ _ _ idle, named_append, named_cons_of_idle idle]
      exact ih.trans (List.append_nil _).symm
    · rw [List.rdropWhile_concat_neg _ _ _ idle]

theorem components_join {lead : Lead} {pieces : List (List Char)}
    (inner : ∀ piece ∈ pieces, '/' ∉ piece)
    (start : lead = .none → ∀ first ∈ pieces.head?, isIdle first = false) :
    (join lead pieces).components = lead.components ++ named pieces := by
  cases pieces with
  | nil => cases lead <;> rfl
  | cons piece rest =>
    have cut := List.splitOn_intercalate '/' inner (List.cons_ne_nil piece rest)
    cases lead with
    | none =>
      have notIdle := start rfl piece rfl
      have nowhere : leading piece rest = [] := by
        simp only [isIdle, Bool.or_eq_false_iff, beq_eq_false_iff_ne] at notIdle
        simp [leading, notIdle]
      rw [components_eq (by simpa [join, Lead.text] using cut), nowhere]
      rfl
    | root =>
      have rooted : (join .root (piece :: rest)).text.toList.splitOn '/' = [] :: piece :: rest := by
        simp [join, Lead.text, List.splitOn_cons_eq_if_modifyHead, cut]
      rw [components_eq rooted, named_cons_of_idle rfl]
      rfl
    | current =>
      have dotted : (join .current (piece :: rest)).text.toList.splitOn '/' =
          ['.'] :: piece :: rest := by
        simp [join, Lead.text, List.splitOn_cons_eq_if_modifyHead, cut]
      rw [components_eq dotted, named_cons_of_idle rfl]
      rfl

theorem componentOf_eq_normal {piece : List Char} {name : String}
    (normal : componentOf piece = .normal name) : piece = name.toList := by
  unfold componentOf at normal
  split at normal
  next => simp at normal
  next => rw [← Component.normal.inj normal, String.toList_ofList]

/-- A path with a file name lies in its parent, under that name. -/
theorem components_parent {path : Path} {name : String} (file : path.fileName? = some name) :
    '/' ∉ name.toList ∧ ∃ parent, path.parent? = some parent ∧
      path.components = parent.components ++ [.normal name] := by
  obtain ⟨⟨lead, pieces⟩, split⟩ : ∃ split, path.split = split := ⟨_, rfl⟩
  have whole := components_of_split split
  rw [← named_trimIdle] at whole
  have ending : path.components.getLast? = some (.normal name) := by
    unfold fileName? at file
    split at file
    next found => rw [found, Option.some.inj file]
    next => simp at file
  rcases List.eq_nil_or_concat' (trimIdle pieces) with nothing | ⟨init, last, trimmed⟩
  · rw [whole, nothing] at ending
    cases lead <;> simp [Lead.components, named] at ending
  · have within : trimIdle pieces <+: pieces := List.rdropWhile_prefix _ _
    rw [trimmed] at within
    have names : isIdle last = false := by
      have stop := List.rdropWhile_last_not isIdle pieces (by
        change trimIdle pieces ≠ []
        simp [trimmed])
      change ¬ isIdle ((trimIdle pieces).getLast _) = true at stop
      simpa [trimmed] using stop
    rw [trimmed, named_append, named_singleton names, ← List.append_assoc] at whole
    have normal : componentOf last = .normal name := by
      simpa [whole] using ending
    have slash := slash_not_mem_of_split split
    refine ⟨?_, join lead (trimIdle init), ?_, ?_⟩
    · rw [← componentOf_eq_normal normal]
      exact slash last (within.subset (by simp))
    · unfold parent?
      have remains : trimIdle pieces ≠ [] := by simp [trimmed]
      obtain ⟨piece, more, cut⟩ := List.exists_cons_of_ne_nil remains
      simp only [split, cut]
      rw [← cut, trimmed, List.dropLast_concat]
    · have initial : trimIdle init <+: pieces :=
        ((List.rdropWhile_prefix isIdle init).trans (List.prefix_append _ _)).trans within
      rw [whole, normal, components_join, named_trimIdle]
      · exact fun piece member => slash piece (initial.subset member)
      · rintro rfl first begins
        obtain ⟨more, cut⟩ := List.head?_eq_some_iff.1 begins
        obtain ⟨others, rfl⟩ := initial
        rw [cut, List.cons_append] at split
        obtain ⟨notCurrent, alone⟩ := head_of_split split
        have notEmpty : first ≠ [] := by
          rintro rfl
          rw [cut, List.cons_append, alone rfl] at trimmed
          exact List.append_ne_nil_of_right_ne_nil init (List.cons_ne_nil last []) trimmed.symm
        simp [isIdle, notEmpty, notCurrent]

theorem isFileName_temporary (name : String) (noSlash : '/' ∉ name.toList) :
    IsFileName (name ++ ".tmp") := by
  have ending : (name ++ ".tmp").toList = name.toList ++ ['.', 't', 'm', 'p'] :=
    String.toList_append
  have long : 4 ≤ (name ++ ".tmp").toList.length := by simp [ending]
  refine ⟨by simp [ending, noSlash], by simp [isIdle, ending, List.append_eq_cons_iff], ?_⟩
  intro parent
  simp [parent] at long

/-- The path with its file name made longer, or with a name where it has none. -/
theorem components_temporary (path : Path) :
    path.temporary.components =
      match path.fileName? with
      | none => path.components ++ [.normal ".tmp"]
      | some name => path.components.dropLast ++ [.normal (name ++ ".tmp")] := by
  unfold temporary withFileName
  cases file : path.fileName? with
  | none => exact components_push path (isFileName_temporary "" List.not_mem_nil)
  | some name =>
    obtain ⟨noSlash, parent, found, whole⟩ := components_parent file
    simp only [found, Option.getD_some]
    rw [components_push parent (isFileName_temporary name noSlash), whole, List.dropLast_concat]

theorem not_same_temporary (path : Path) : ¬ path.temporary.Same path := by
  intro same
  rw [Same, components_temporary] at same
  cases file : path.fileName? with
  | none => simp [file] at same
  | some name =>
    obtain ⟨-, parent, -, whole⟩ := components_parent file
    simp [file, whole] at same

end IniSettings.Path
