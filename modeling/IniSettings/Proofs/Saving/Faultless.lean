import IniSettings.Proofs.Saving.Replace

/-!
# Saving where nothing fails

In either mode the file holds the document in the end.
-/

namespace IniSettings
open Memory Script

structure Memory.Faultless (memory : Memory) : Prop where
  failAfter : memory.failAfter = none
  denyCreates : memory.denyCreates = false
  faults : memory.faults = {}

variable {memory later : Memory}

theorem Memory.Faultless.sameBut {places : List (List Path.Component)}
    (faultless : memory.Faultless) (same : SameBut places memory later) : later.Faultless :=
  ⟨same.failAfter.trans faultless.failAfter, same.denyCreates.trans faultless.denyCreates,
    same.faults.trans faultless.faults⟩

theorem Memory.Faultless.completes (faultless : memory.Faultless) (path : Path)
    (document : Document) : Saving.Completes (memory.opening path) document := by
  simp [Saving.Completes, opening, OpenFile.taken, OpenFile.room, faultless.failAfter,
    faultless.faults]

theorem Memory.Faultless.writeFile (faultless : memory.Faultless) (document : Document)
    (path : Path) :
    (Saving.writeFile document path).Ensures memory (SameBut [path.components] memory)
      fun answer later =>
        answer = .ok () ∧ later.contents? path = some (Text.Utf8.encode document.render) := by
  refine (Saving.writeFile_ensures document path memory).imp (fun _ within => within.1)
    fun answer later _ outcome => ?_
  cases outcome with
  | refused denied files => simp [faultless.denyCreates] at denied
  | failed opened incomplete rest => exact absurd (faultless.completes path document) incomplete
  | written opened complete contents => exact ⟨rfl, contents⟩

theorem Memory.Faultless.save (faultless : memory.Faultless) (document : Document) (path : Path)
    (mode : WriteMode) :
    (document.save path mode).Ensures memory
      (SameBut [path.temporary.components, path.components] memory) fun answer later =>
        answer = .ok () ∧ later.contents? path = some (Text.Utf8.encode document.render) := by
  cases mode with
  | truncate =>
    exact (faultless.writeFile document path).imp (fun _ same => same.mono (by simp))
      fun _ _ _ => id
  | replace =>
    refine ((faultless.writeFile document path.temporary).imp
      (fun _ same => same.mono (by simp)) fun _ _ _ => id).bind fun answer later same written => ?_
    obtain ⟨rfl, contents⟩ := written
    refine (Saving.moveIntoPlace_ensures path.not_same_temporary contents).imp
      (fun _ moved => same.trans moved.1) fun answer last _ moved => ?_
    cases answer with
    | ok _ => exact ⟨rfl, moved.2.1⟩
    | error _ => simp [(faultless.sameBut same).faults] at moved

end IniSettings
