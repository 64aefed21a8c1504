import IniSettings.Proofs.Lookup
import IniSettings.Proofs.Storage.Script
import IniSettings.Storage.Memory
import Mathlib.Data.List.TakeDrop

/-!
# Files in memory, call by call

What each call changes and what it leaves alone. The map may list a place twice: only the first of
its files is ever seen, and every law below holds of it.
-/

namespace IniSettings

namespace Memory

/-! ## The map -/

section Map

variable (files : List (List Path.Component × Contents)) (place other : List Path.Component)

theorem lookup_putFile (contents : Contents) :
    (putFile place contents files).lookup other =
      if other = place then some contents else files.lookup other := by
  induction files with
  | nil => simp only [putFile, lookup_cons_eq_if]
  | cons file rest ih =>
    obtain ⟨first, old⟩ := file
    by_cases same : first = place
    · subst same
      simp only [putFile, lookup_cons_eq_if, if_true]
      split <;> rfl
    · simp only [putFile, same, if_false, lookup_cons_eq_if, ih]
      by_cases found : other = first
      · simp [found, same]
      · simp [found]

theorem lookup_erase :
    (files.filter fun file => file.1 != place).lookup other =
      if other = place then none else files.lookup other := by
  induction files with
  | nil => simp
  | cons file rest ih =>
    by_cases same : file.1 = place
    · simp only [List.filter_cons, same, bne_self_eq_false, Bool.false_eq_true, if_false, ih,
        lookup_cons_eq_if]
      split <;> rfl
    · have kept : (file.1 != place) = true := by simpa using same
      simp only [List.filter_cons, kept, if_true, lookup_cons_eq_if, ih]
      by_cases found : other = file.1
      · simp [found, same]
      · simp [found]

end Map

/-! ## What stays the same -/

/-- The memories differ in the files at those places at most, and will fail alike. -/
structure SameBut (places : List (List Path.Component)) (memory later : Memory) : Prop where
  files : ∀ other, other ∉ places → later.files.lookup other = memory.files.lookup other
  failAfter : later.failAfter = memory.failAfter
  denyCreates : later.denyCreates = memory.denyCreates
  faults : later.faults = memory.faults

variable {places : List (List Path.Component)} {memory later : Memory} {path source target : Path}

theorem SameBut.refl (memory : Memory) : SameBut places memory memory :=
  ⟨fun _ _ => rfl, rfl, rfl, rfl⟩

theorem SameBut.trans {last : Memory} (first : SameBut places memory later)
    (second : SameBut places later last) : SameBut places memory last :=
  ⟨fun other apart => (second.files other apart).trans (first.files other apart),
    second.failAfter.trans first.failAfter, second.denyCreates.trans first.denyCreates,
    second.faults.trans first.faults⟩

theorem SameBut.mono {more : List (List Path.Component)} (same : SameBut places memory later)
    (subset : places ⊆ more) : SameBut more memory later :=
  { same with files := fun other apart => same.files other fun member => apart (subset member) }

theorem SameBut.contents? (same : SameBut places memory later)
    (apart : path.components ∉ places) : later.contents? path = memory.contents? path :=
  congrArg _ (same.files _ apart)

/-! ## Calls -/

theorem answer_read (allowed : memory.faults.read = false) {bytes : Bytes}
    (there : memory.contents? path = some bytes) :
    Backend.answer (.read path) memory = (.ok bytes, memory) := by
  show (memory.read path, memory) = _
  simp [read, allowed, there]

theorem answer_create : Backend.answer (.create path) memory = memory.create path := rfl

theorem answer_write (bytes : Bytes) :
    Backend.answer (.write bytes) memory = memory.write bytes := rfl

theorem answer_remove : Backend.answer (.remove path) memory = memory.remove path := rfl

theorem answer_rename :
    Backend.answer (.rename source target) memory = memory.rename source target := rfl

theorem sameBut_put (memory : Memory) (place : List Path.Component) (contents : Contents) :
    SameBut [place] memory (memory.put place contents) := by
  refine ⟨fun other apart => ?_, rfl, rfl, rfl⟩
  exact (lookup_putFile _ _ _ _).trans (if_neg (by simpa using apart))

theorem contents?_put (memory : Memory) (path : Path) (contents : Contents) :
    (memory.put path.components contents).contents? path = some contents.bytes := by
  simp [contents?, put, lookup_putFile]

theorem sameBut_erase (memory : Memory) (path : Path) :
    SameBut [path.components] memory (memory.erase path) := by
  refine ⟨fun other apart => ?_, rfl, rfl, rfl⟩
  exact (lookup_erase _ _ _).trans (if_neg (by simpa using apart))

theorem contents?_erase (memory : Memory) (path : Path) :
    (memory.erase path).contents? path = none := by
  simp [contents?, erase, lookup_erase]

/-- The backend deletes what it is asked to remove. -/
def Removes (memory : Memory) : Prop :=
  memory.faults.gone = false ∧ memory.faults.remove = false

theorem remove_cases (memory : Memory) (path : Path) :
    (¬ memory.Removes ∧ (memory.remove path).2 = memory) ∨
      (memory.Removes ∧ (memory.remove path).2.contents? path = none ∧
        SameBut [path.components] memory (memory.remove path).2) := by
  by_cases gone : memory.faults.gone = true
  · exact .inl ⟨by simp [Removes, gone], by simp [remove, gone]⟩
  by_cases denied : memory.faults.remove = true
  · exact .inl ⟨by simp [Removes, denied], by simp [remove, gone, denied]⟩
  refine .inr ⟨by simpa [Removes] using And.intro gone denied, ?_⟩
  cases found : memory.contents? path with
  | none =>
    have unchanged : (memory.remove path).2 = memory := by simp [remove, gone, denied, found]
    rw [unchanged]
    exact ⟨found, SameBut.refl memory⟩
  | some bytes =>
    have erased : (memory.remove path).2 =
        { memory.erase path with removes := memory.removes + 1 } := by
      simp [remove, gone, denied, found]
    rw [erased]
    exact ⟨contents?_erase memory path, { sameBut_erase memory path with }⟩

theorem rename_cases (memory : Memory) (source target : Path) :
    (∃ error, (memory.rename source target).1 = .error error ∧
        (memory.rename source target).2 = memory ∧
        (memory.faults.rename = true ∨ memory.contents? source = none)) ∨
      ∃ bytes, memory.faults.rename = false ∧ memory.contents? source = some bytes ∧
        memory.rename source target = (.ok (), (memory.erase source).insert target bytes) := by
  by_cases denied : memory.faults.rename = true
  · exact .inl ⟨.renameDenied, by simp [rename, denied], by simp [rename, denied], .inl denied⟩
  cases found : memory.contents? source with
  | none =>
    exact .inl ⟨.absent, by simp [rename, denied, found], by simp [rename, denied, found], .inr rfl⟩
  | some bytes =>
    exact .inr ⟨bytes, by simpa using denied, rfl, by simp [rename, denied, found]⟩

end Memory

/-! ## The open file -/

namespace OpenFile

variable (file : OpenFile) (bytes more : Bytes)

def room : Option Nat :=
  if file.takesNothing then some 0 else file.budget

def taken : Bytes :=
  match file.room with
  | none => bytes
  | some left => bytes.take left

def after (count : Nat) : OpenFile :=
  { file with budget := file.budget.map fun left => left - count }

theorem room_after (count : Nat) : (file.after count).room = file.room.map (· - count) := by
  unfold room after
  split <;> simp

theorem after_after (count next : Nat) :
    (file.after count).after next = file.after (count + next) := by
  simp [after, Function.comp_def, Nat.sub_sub]

@[simp] theorem after_zero : file.after 0 = file := by
  simp [after]

theorem isPrefix_taken : file.taken bytes <+: bytes := by
  unfold taken
  split
  · exact List.prefix_rfl
  · exact List.take_prefix _ _

@[simp] theorem taken_nil : file.taken [] = [] :=
  List.prefix_nil.1 (file.isPrefix_taken [])

theorem take_length_taken : bytes.take (file.taken bytes).length = file.taken bytes :=
  (List.prefix_iff_eq_take.1 (file.isPrefix_taken bytes)).symm

theorem taken_taken : file.taken (file.taken bytes) = file.taken bytes := by
  unfold taken
  split
  · rfl
  · rw [List.take_take, Nat.min_self]

variable {file bytes}

theorem taken_append (fits : file.taken bytes = bytes) :
    file.taken (bytes ++ more) = bytes ++ (file.after bytes.length).taken more := by
  unfold taken at fits ⊢
  rw [room_after]
  cases limit : file.room with
  | none => rfl
  | some left =>
    have short : bytes.length ≤ left := by simpa [limit, List.take_eq_self_iff] using fits
    simp [List.take_append, List.take_of_length_le short]

theorem taken_append_of_ne (refused : file.taken bytes ≠ bytes) :
    file.taken (bytes ++ more) = file.taken bytes := by
  unfold taken at refused ⊢
  cases limit : file.room with
  | none => simp [limit] at refused
  | some left =>
    have long : left ≤ bytes.length := by
      have : left < bytes.length := by simpa [limit, List.take_eq_self_iff] using refused
      omega
    simp [List.take_append, Nat.sub_eq_zero_of_le long]

theorem accept_cases (file : OpenFile) (bytes : Bytes) :
    (∃ error, Memory.OpenFile.accept file bytes.length = .error error ∧ file.taken bytes = []) ∨
      Memory.OpenFile.accept file bytes.length = .ok (file.taken bytes).length := by
  obtain ⟨place, budget, flushFails, takesNothing⟩ := file
  cases takesNothing with
  | true => exact .inr (by simp [Memory.OpenFile.accept, taken, room])
  | false =>
    match budget with
    | none => exact .inr (by simp [Memory.OpenFile.accept, taken, room])
    | some 0 => exact .inl ⟨.writeRefused, by simp [Memory.OpenFile.accept, taken, room]⟩
    | some (left + 1) =>
      exact .inr (by simp [Memory.OpenFile.accept, taken, room, Nat.min_comm])

end OpenFile

namespace Memory

variable {memory : Memory} {path : Path} {file : OpenFile} {written : Bytes}

/-- The file at that path is open, and these bytes were written to it. -/
structure Opened (memory : Memory) (path : Path) (file : OpenFile) (written : Bytes) : Prop where
  writing : memory.writing = some file
  place : file.place = path.components
  contents : memory.contents? path = some written

def opening (memory : Memory) (path : Path) : OpenFile :=
  ⟨path.components, memory.failAfter, memory.faults.flush, memory.faults.zero⟩

theorem create_cases (memory : Memory) (path : Path) :
    (memory.denyCreates = true ∧ memory.create path =
        (.error .createDenied, { memory with creates := memory.creates + 1 })) ∨
      (memory.denyCreates = false ∧ (memory.create path).1 = .ok () ∧
        (memory.create path).2.Opened path (memory.opening path) [] ∧
        SameBut [path.components] memory (memory.create path).2) := by
  by_cases denied : memory.denyCreates = true
  · exact .inl ⟨denied, by simp [create, denied]⟩
  refine .inr ⟨by simpa using denied, ?_⟩
  let counted := { memory with creates := memory.creates + 1 }
  have created : memory.create path = (.ok (),
      { counted.put path.components .empty with writing := some (memory.opening path) }) := by
    simp [create, denied, opening, counted]
  rw [created]
  exact ⟨rfl, ⟨rfl, rfl, contents?_put counted path .empty⟩,
    { sameBut_put counted path.components .empty with }⟩

theorem write_cases (opened : memory.Opened path file written) (bytes : Bytes) :
    (∃ error, memory.write bytes = (.error error, memory) ∧ file.taken bytes = []) ∨
      ((memory.write bytes).1 = .ok (file.taken bytes).length ∧
        (memory.write bytes).2.Opened path (file.after (file.taken bytes).length)
          (written ++ file.taken bytes) ∧
        SameBut [path.components] memory (memory.write bytes).2) := by
  rcases OpenFile.accept_cases file bytes with ⟨error, refused, nothing⟩ | accepted
  · exact .inl ⟨error, by simp [write, opened.writing, refused], nothing⟩
  refine .inr ?_
  obtain ⟨old, found, rfl⟩ := Option.map_eq_some_iff.1 opened.contents
  have wrote : memory.write bytes = (.ok (file.taken bytes).length,
      { memory.put path.components (old.append (file.taken bytes)) with
        writing := some (file.after (file.taken bytes).length) }) := by
    simp [write, opened.writing, opened.place, accepted, found, file.take_length_taken,
      OpenFile.after]
  rw [wrote]
  refine ⟨rfl, ⟨rfl, opened.place, ?_⟩, { sameBut_put memory path.components _ with }⟩
  exact (contents?_put memory path _).trans (congrArg some (Contents.bytes_append old _))

end Memory

end IniSettings
