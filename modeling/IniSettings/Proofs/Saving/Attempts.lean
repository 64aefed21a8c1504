import IniSettings.Proofs.Storage.Trace
import IniSettings.Saving
import IniSettings.Storage.Memory

/-!
# What saving asks for

On any backend a document is saved by one attempt to open a file. From there on only that file is
written to and removed, and in the end it is moved if it was a temporary one. Nobody is notified.
-/

namespace IniSettings

namespace Saving
open Script

/-- What may occur while the file at that path is written, once it was to be opened. -/
def OnFile (path : Path) : Occurrence → Prop
  | .called (.write _) => True
  | .called .flush => True
  | .called .close => True
  | .called (.remove other) => other = path
  | .called _ => False
  | .reported (.logged _) => True
  | .reported (.notified _) => False

theorem OnFile.silent {path : Path} (occurrence : Occurrence) (may : OnFile path occurrence) :
    occurrence.Silent := by
  match occurrence with
  | .called _ => trivial
  | .reported (.logged _) => trivial
  | .reported (.notified _) => exact may

variable {path : Path}

theorem writeAll_only (fuel : Nat) (bytes : Bytes) : (writeAll fuel bytes).Only (OnFile path) := by
  induction fuel generalizing bytes with
  | zero => cases bytes <;> exact only_pure _
  | succ fuel ih =>
    cases bytes with
    | nil => exact only_pure _
    | cons byte rest =>
      refine ⟨trivial, fun reply => ?_⟩
      match reply with
      | .error error => exact only_pure _
      | .ok 0 => exact only_pure _
      | .ok (count + 1) => exact ih _

theorem writePieces_only (pieces : List String) : (writePieces pieces).Only (OnFile path) := by
  induction pieces with
  | nil => exact only_pure _
  | cons piece rest ih =>
    refine (writeAll_only _ _).bind fun answer => ?_
    cases answer with
    | error error => exact only_pure _
    | ok _ => exact ih

theorem streamAndFlush_only (document : Document) :
    (streamAndFlush document).Only (OnFile path) := by
  refine (writePieces_only document.pieces).bind fun answer => ?_
  cases answer with
  | error error => exact only_pure _
  | ok _ => exact only_ask trivial

theorem discard_only (path : Path) : (discard path).Only (OnFile path) := by
  refine ⟨rfl, fun reply => ?_⟩
  cases reply with
  | ok _ => exact only_pure _
  | error error =>
    show (if error.kind = .notFound then pure () else log (.removeFailed path error)).Only _
    split
    · exact only_pure _
    · exact only_log trivial

theorem failWrite_only (error : IoError) : (failWrite path error).Only (OnFile path) :=
  (only_log trivial).bind fun _ => only_pure _

theorem writeFile_eq_call (document : Document) (path : Path) :
    ∃ next, writeFile document path = .call (.create path) next ∧
      ∀ reply, (next reply).Only (OnFile path) := by
  refine ⟨_, rfl, fun reply => ?_⟩
  cases reply with
  | error error => exact failWrite_only error
  | ok _ =>
    have closing : (ask .close).Only (OnFile path) := only_ask trivial
    refine (streamAndFlush_only document).bind fun written => ?_
    refine closing.bind fun _ => ?_
    cases written with
    | error error => exact (discard_only path).bind fun _ => failWrite_only error
    | ok _ => exact (only_log trivial).bind fun _ => only_pure _

theorem moveIntoPlace_only (temporary path : Path) :
    (moveIntoPlace temporary path).Only fun occurrence =>
      occurrence = .called (.rename temporary path) ∨ OnFile temporary occurrence := by
  refine ⟨.inl rfl, fun reply => ?_⟩
  cases reply with
  | ok _ => exact only_pure _
  | error error =>
    refine (only_log (.inr trivial)).bind fun _ => ?_
    exact ((discard_only temporary).imp fun _ => .inr).bind fun _ => only_pure _

end Saving

open Script Saving

variable {σ : Type} [Backend σ]

theorem Saving.writeFile_attempts (document : Document) (path : Path) (store : σ) :
    ((writeFile document path).run store).attempts = 1 := by
  obtain ⟨next, script, only⟩ := writeFile_eq_call document path
  have rest := (only (Backend.answer (.create path) store).1).attempts
    (fun _ => id) (Backend.answer (.create path) store).2
  rw [script, attempts_call, rest]
  rfl

/-- In either mode, and whatever the backend replies, one attempt is made. -/
theorem Document.save_attempts (document : Document) (path : Path) (mode : WriteMode) (store : σ) :
    ((document.save path mode).run store).attempts = 1 := by
  cases mode with
  | truncate => exact writeFile_attempts document path store
  | replace =>
    have first := writeFile_attempts document path.temporary store
    rw [Document.save, attempts_bind, first]
    generalize ((writeFile document path.temporary).run store).value = written
    cases written with
    | error error => rfl
    | ok _ =>
      have moving := (moveIntoPlace_only path.temporary path).attempts (by simp [OnFile])
        ((writeFile document path.temporary).run store).store
      exact congrArg (1 + ·) moving

theorem Saving.writeFile_silent (document : Document) (path : Path) :
    (writeFile document path).Only Occurrence.Silent := by
  obtain ⟨next, script, only⟩ := writeFile_eq_call document path
  rw [script]
  exact ⟨trivial, fun reply => (only reply).imp OnFile.silent⟩

theorem Document.save_silent (document : Document) (path : Path) (mode : WriteMode) :
    (document.save path mode).Only Occurrence.Silent := by
  cases mode with
  | truncate => exact writeFile_silent document path
  | replace =>
    refine (writeFile_silent document path.temporary).bind fun written => ?_
    cases written with
    | error error => exact only_pure _
    | ok _ =>
      refine (moveIntoPlace_only path.temporary path).imp fun occurrence may => ?_
      rcases may with rfl | may
      · trivial
      · exact OnFile.silent occurrence may

theorem Memory.creates_run {α : Type} (script : Script α) (memory : Memory) :
    (script.run memory).store.creates = memory.creates + (script.run memory).attempts := by
  induction script generalizing memory with
  | done value => rfl
  | report event rest ih => exact ih memory
  | call request resume ih =>
    have counted : (Backend.answer request memory).2.creates =
        memory.creates + if request.isCreate then 1 else 0 := by
      cases request with
      | create path =>
        show (memory.create path).2.creates = memory.creates + 1
        unfold Memory.create
        dsimp only
        split <;> rfl
      | write bytes =>
        show (memory.write bytes).2.creates = memory.creates
        unfold Memory.write
        split
        · rfl
        · dsimp only
          split <;> rfl
      | remove path =>
        show (memory.remove path).2.creates = memory.creates
        unfold Memory.remove
        split
        · rfl
        · split
          · rfl
          · split <;> rfl
      | rename source target =>
        show (memory.rename source target).2.creates = memory.creates
        unfold Memory.rename
        split
        · rfl
        · split <;> rfl
      | _ => rfl
    have rest := ih (Backend.answer request memory).1 (Backend.answer request memory).2
    rw [counted, Nat.add_assoc] at rest
    rw [Script.attempts_call]
    exact rest

end IniSettings
