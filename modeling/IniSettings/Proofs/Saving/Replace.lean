import IniSettings.Proofs.Saving.Writing
import IniSettings.Proofs.Storage.Path

/-!
# Replacing a file in memory

A document that replaces a file is first written beside it, and only a file that was written to its
end is moved over the old one. So whatever fails, and whenever one looks, the file is the old one
or the new one.
-/

namespace IniSettings

namespace Saving
open Memory Script

variable {memory : Memory} {source target : Path} {bytes : Bytes}

theorem sameBut_move (memory : Memory) (source target : Path) (bytes : Bytes) :
    SameBut [source.components, target.components] memory
      ((memory.erase source).insert target bytes) :=
  ((sameBut_erase memory source).mono (by simp)).trans
    ((sameBut_put (memory.erase source) target.components (.ofBytes bytes)).mono (by simp))

theorem contents?_move_target (memory : Memory) (source target : Path) (bytes : Bytes) :
    ((memory.erase source).insert target bytes).contents? target = some bytes :=
  (contents?_put (memory.erase source) target (.ofBytes bytes)).trans
    (congrArg some (Contents.bytes_ofBytes bytes))

theorem contents?_move_source (apart : ¬ source.Same target) :
    ((memory.erase source).insert target bytes).contents? source = none := by
  have kept : ((memory.erase source).insert target bytes).contents? source =
      (memory.erase source).contents? source :=
    (sameBut_put (memory.erase source) target.components (.ofBytes bytes)).contents?
      (by simpa [Path.Same] using apart)
  exact kept.trans (contents?_erase memory source)

theorem moveIntoPlace_ensures (apart : ¬ source.Same target)
    (there : memory.contents? source = some bytes) :
    (moveIntoPlace source target).Ensures memory
      (fun state => SameBut [source.components, target.components] memory state ∧
        (state.contents? target = memory.contents? target ∨ state.contents? target = some bytes))
      (fun answer last => match answer with
        | .ok _ => memory.faults.rename = false ∧ last.contents? target = some bytes ∧
            last.contents? source = none
        | .error _ => memory.faults.rename = true ∧
            last.contents? target = memory.contents? target ∧
            (memory.Removes → last.contents? source = none)) := by
  refine ensures_ask_bind ⟨SameBut.refl memory, .inl rfl⟩ ?_
  rw [answer_rename]
  rcases rename_cases memory source target with
    ⟨error, refused, unchanged, cause⟩ | ⟨moved, allowed, found, renamed⟩
  · have denied : memory.faults.rename = true := cause.resolve_right (by simp [there])
    have targetKept : ∀ state, SameBut [source.components] memory state →
        state.contents? target = memory.contents? target := fun state same =>
      same.contents? (by simpa [Path.Same, eq_comm] using apart)
    rw [refused, unchanged]
    refine ensures_log_bind (((discard_ensures memory source).bind
      fun _ last same removed => ensures_pure same ?_).imp
        (fun state same => ⟨same.mono (by simp), .inl (targetKept state same)⟩) fun _ _ _ => id)
    exact ⟨denied, targetKept last same, fun removes =>
      removed.elim And.right fun kept => absurd removes kept.1⟩
  · obtain rfl : moved = bytes := Option.some.inj (found.symm.trans there)
    rw [renamed]
    have replaced := contents?_move_target memory source target moved
    exact ensures_pure ⟨sameBut_move memory source target moved, .inr replaced⟩
      ⟨allowed, replaced, contents?_move_source apart⟩

end Saving

open Script Saving in
theorem Document.save_ensures (document : Document) (path : Path) (mode : WriteMode)
    (memory : Memory) :
    (document.save path mode).Ensures memory (fun _ => True) fun answer last =>
      answer = .ok () → last.contents? path = some (Text.Utf8.encode document.render) := by
  cases mode with
  | truncate =>
    refine (writeFile_ensures document path memory).imp (fun _ _ => trivial)
      fun answer last _ outcome saved => ?_
    subst saved
    cases outcome with
    | written opened complete contents => exact contents
  | replace =>
    refine ((writeFile_ensures document path.temporary memory).imp (fun _ _ => trivial)
      fun _ _ _ outcome => outcome).bind fun answer later _ outcome => ?_
    cases outcome with
    | refused denied files => exact ensures_pure trivial fun saved => by cases saved
    | failed opened incomplete rest => exact ensures_pure trivial fun saved => by cases saved
    | written opened complete contents =>
      refine (moveIntoPlace_ensures path.not_same_temporary contents).imp (fun _ _ => trivial)
        fun answer last _ moved saved => ?_
      subst saved
      exact moved.2.1

open Script Saving in
/-- Whatever fails and wherever the run is cut between two calls, the target is the old file or
all of the new one, and no file but it and its temporary sibling is touched. -/
theorem Document.save_replace_atomic (document : Document) (path : Path) (memory : Memory) :
    ¬ path.temporary.Same path ∧
      (document.save path .replace).Ensures memory
        (fun state =>
          (state.contents? path = memory.contents? path ∨
            state.contents? path = some (Text.Utf8.encode document.render)) ∧
          (∀ place, place ≠ path.components → place ≠ path.temporary.components →
            state.files.lookup place = memory.files.lookup place) ∧
          (memory.denyCreates = true → state.files = memory.files))
        (fun answer last => match answer with
          | .ok _ =>
            last.contents? path = some (Text.Utf8.encode document.render) ∧
              last.contents? path.temporary = none
          | .error _ =>
            last.contents? path = memory.contents? path ∧
              (memory.denyCreates = false → memory.Removes →
                last.contents? path.temporary = none)) := by
  have apart := path.not_same_temporary
  have targetKept : ∀ {start state : Memory},
      Memory.SameBut [path.temporary.components] start state →
        state.contents? path = start.contents? path := fun same =>
    same.contents? (by simpa [Path.Same, eq_comm] using apart)
  refine ⟨apart, ?_⟩
  refine ((writeFile_ensures document path.temporary memory).imp
    (fun state within => ⟨.inl (targetKept within.1), fun place _ notTemporary =>
      within.1.files place (by simpa using notTemporary), within.2⟩)
    fun answer last within outcome => And.intro within.1 outcome).bind
      fun answer later within outcome => ?_
  obtain ⟨same, outcome⟩ := outcome
  cases outcome with
  | refused denied files =>
    exact ensures_pure within ⟨targetKept same, fun opened => by simp [denied] at opened⟩
  | failed opened incomplete rest =>
    exact ensures_pure within ⟨targetKept same, fun _ removes =>
      rest.elim And.right fun kept => absurd removes kept.1⟩
  | written opened complete contents =>
    refine (moveIntoPlace_ensures apart contents).imp (fun state between => ⟨?_, ?_, ?_⟩)
      fun answer last _ moved => ?_
    · exact between.2.imp_left fun kept => kept.trans (targetKept same)
    · exact fun place notTarget notTemporary =>
        (between.1.files place (by simp [notTarget, notTemporary])).trans
          (same.files place (by simpa using notTemporary))
    · exact fun denied => by simp [opened] at denied
    · cases answer with
      | ok _ => exact moved.2
      | error _ =>
        obtain ⟨-, kept, removed⟩ := moved
        have removes : later.Removes ↔ memory.Removes := by
          rw [Memory.Removes, Memory.Removes, same.faults]
        exact ⟨kept.trans (targetKept same), fun _ => removed ∘ removes.2⟩

end IniSettings
