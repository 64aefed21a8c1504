import IniSettings.Proofs.Saving.Attempts
import IniSettings.Proofs.Saving.Writing

/-!
# Writing over a file in memory

A document that is written over its file loses the old contents as soon as the file is opened. A
failure after that leaves no file, or the begin of the new one where nothing can be removed.
-/

namespace IniSettings

namespace Saving
open Memory Script

variable {document : Document} {path : Path} {memory later : Memory}

theorem FileOutcome.ok_iff {answer : Except ConfigError Unit}
    (outcome : FileOutcome document path memory answer later) :
    answer = .ok () ↔ memory.denyCreates = false ∧ Completes (memory.opening path) document := by
  cases outcome with
  | refused denied files => simp [denied]
  | failed opened incomplete rest => simp [incomplete]
  | written opened complete contents => simp [opened, complete]

theorem completes_opening_iff {limit : Nat} (limited : memory.failAfter = some limit)
    (flush : memory.faults.flush = false) (zero : memory.faults.zero = false) :
    Completes (memory.opening path) document ↔
      (Text.Utf8.encode document.render).length ≤ limit := by
  simp [Completes, opening, OpenFile.taken, OpenFile.room, limited, flush, zero]

theorem calls_writeFile_of_denied (document : Document) (path : Path)
    (denied : memory.denyCreates = true) :
    ((writeFile document path).run memory).calls = [.create path] := by
  have refused : ((ask (.create path)).run memory).value = .error .createDenied := by
    rcases create_cases memory path with ⟨-, created⟩ | ⟨allowed, -⟩
    · exact congrArg Prod.fst created
    · simp [denied] at allowed
  rw [writeFile, calls_bind, refused]
  rfl

theorem writeFile_asks (document : Document) (path : Path) (memory : Memory) :
    ∀ request ∈ ((writeFile document path).run memory).calls,
      request = .create path ∨ OnFile path (.called request) := by
  obtain ⟨next, script, only⟩ := writeFile_eq_call document path
  have all : (writeFile document path).Only fun occurrence =>
      occurrence = .called (.create path) ∨ OnFile path occurrence := by
    rw [script]
    exact ⟨.inl rfl, fun reply => (only reply).imp fun _ => .inr⟩
  intro request member
  simpa using all.calls memory request member

end Saving

open Script Saving in
/-- Whatever fails while a file is written over, one attempt is made to open it, no other file is
touched, and the file ends as all of the document, as it was, as nothing, or, if it could not be
removed, as a begin of the document. -/
theorem Document.save_truncate_contract (document : Document) (path : Path) (memory : Memory) :
    let script := document.save path .truncate
    let run := script.run memory
    let rendering := Text.Utf8.encode document.render
    (run.attempts = 1 ∧ run.store.creates = memory.creates + 1) ∧
      (∀ request ∈ run.calls, request = .create path ∨ OnFile path (.called request)) ∧
      (∀ state ∈ script.states memory, ∀ place, place ≠ path.components →
        state.files.lookup place = memory.files.lookup place) ∧
      (run.value = .ok () → run.store.contents? path = some rendering) ∧
      (memory.denyCreates = true →
        run.value ≠ .ok () ∧ run.store.files = memory.files ∧ run.calls = [.create path]) ∧
      (memory.denyCreates = false → run.value ≠ .ok () →
        (memory.Removes → run.store.contents? path = none) ∧
        (¬ memory.Removes →
          ∃ held, run.store.contents? path = some held ∧ held <+: rendering)) ∧
      (∀ limit, memory.failAfter = some limit → memory.denyCreates = false →
        memory.faults.flush = false → memory.faults.zero = false →
          (run.value ≠ .ok () ↔ limit < rendering.length)) := by
  intro script run rendering
  have attempt : run.attempts = 1 := document.save_attempts path .truncate memory
  have counted : run.store.creates = memory.creates + 1 :=
    (Memory.creates_run script memory).trans (congrArg (memory.creates + ·) attempt)
  obtain ⟨between, outcome⟩ := writeFile_ensures document path memory
  change FileOutcome document path memory run.value run.store at outcome
  have others : ∀ state ∈ script.states memory, ∀ place, place ≠ path.components →
      state.files.lookup place = memory.files.lookup place := by
    intro state member place apart
    exact (between state member).1.files place (by simpa using apart)
  have accepted := outcome.ok_iff
  refine ⟨⟨attempt, counted⟩, writeFile_asks document path memory, others, ?_, ?_, ?_, ?_⟩
  · intro complete
    rw [complete] at outcome
    cases outcome with
    | written opened complete contents => exact contents
  · intro denied
    refine ⟨by simp [accepted, denied], ?_, calls_writeFile_of_denied document path denied⟩
    exact (between run.store (mem_states_end script memory)).2 denied
  · intro allowed incomplete
    generalize run.value = answer at outcome incomplete
    cases outcome with
    | refused denied files => simp [allowed] at denied
    | written opened complete contents => exact absurd rfl incomplete
    | failed opened incomplete rest =>
      refine ⟨fun removes => ?_, fun keeps => ?_⟩
      · exact rest.elim And.right fun kept => absurd removes kept.1
      -- What the file took before it failed is still there.
      · have held := rest.elim (fun removed => absurd removed.1 keeps) And.right
        exact ⟨_, held, OpenFile.isPrefix_taken _ _⟩
  · intro limit limited allowed flush zero
    rw [Ne, accepted, completes_opening_iff limited flush zero]
    simp [allowed, rendering]

end IniSettings
