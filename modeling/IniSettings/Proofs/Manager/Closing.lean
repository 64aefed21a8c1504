import IniSettings.Proofs.Manager.Requests
import IniSettings.Proofs.Storage.Script
import IniSettings.Storage.Memory

/-!
# The end of a transaction

However a scope ends, its transaction is finished once: the changes are stored, the observer is
told, and the marks are cleared unless the observer gave up. The ways to end a scope differ in what
they answer, and in that a store error which nobody is answered goes to the log.
-/

namespace IniSettings
open Script

variable {schema : Schema} {σ : Type} [Backend σ]

namespace Manager

def verdict (manager : Manager schema) : Except Abort Unit :=
  match manager.observer with
  | none => .ok ()
  | some observer =>
    match observer.failure (observer.calls + 1) with
    | none => .ok ()
    | some message => .error (.raised message)

def told (manager : Manager schema) : Manager schema :=
  { manager with
    observer := manager.observer.map fun observer =>
      { observer with calls := observer.calls + 1 } }

def notices (manager : Manager schema) (origin : Origin) (changed : List schema.Field) :
    List Occurrence :=
  manager.observer.toList.map fun observer =>
    .reported (.notified ⟨observer.label, origin, changed.map Fin.val⟩)

def closed (manager : Manager schema) : Manager schema :=
  { manager with table := { manager.table with updating := false } }

/-- An observer that gives up keeps the marks from being cleared. -/
def processed (manager : Manager schema) : Manager schema :=
  match manager.verdict with
  | .error _ => manager.told
  | .ok _ => { manager.told with table := { manager.table with changes := .empty } }

theorem run_tellObserver (manager : Manager schema) (origin : Origin) (store : σ) :
    (manager.tellObserver origin).run store =
      ⟨⟨manager.told, manager.verdict⟩, store,
        manager.notices origin manager.table.changes.toList⟩ := by
  obtain ⟨path, mode, defaults, table, observer⟩ := manager
  cases observer with
  | none => rfl
  | some observer =>
    unfold verdict
    dsimp only
    cases gives : observer.failure (observer.calls + 1) with
    | none => simp [tellObserver, run_bind, gives, told, notices, notify, run]
    | some message => simp [tellObserver, run_bind, gives, told, notices, notify, run]

theorem run_processChanges {manager : Manager schema}
    (pending : manager.table.hasPending = true) (origin : Origin) (store : σ) :
    (manager.processChanges origin).run store =
      let attempt := manager.store.run store
      ⟨⟨manager.processed, manager.verdict.map fun _ => attempt.value.map fun _ => true⟩,
        attempt.store,
        attempt.trace ++ manager.notices origin manager.table.changes.toList⟩ := by
  -- There is something to clear, so clearing is not aborted.
  have clears : manager.told.table.changesProcessed =
      .ok { manager.table with changes := .empty } := by
    show manager.table.changesProcessed = _
    rw [Table.changesProcessed, if_pos pending]
  rw [processChanges, run_bind]
  dsimp only
  rw [run_bind, run_tellObserver]
  unfold processed
  dsimp only
  cases manager.verdict with
  | error abort => simp [Except.map]
  | ok _ =>
    rw [clears]
    simp [Except.map]

theorem finishUpdate_of_open {manager : Manager schema} (opened : manager.table.updating = true)
    (origin : Origin) :
    manager.finishUpdate origin =
      if manager.closed.table.hasPending then manager.closed.processChanges origin
      else pure ⟨manager.closed, .ok (.ok false)⟩ := by
  have ends : manager.table.endUpdate = .ok manager.closed.table := by
    rw [Table.endUpdate, if_pos opened]
    rfl
  rw [finishUpdate, ends]
  rfl

theorem finishUpdate_of_closed {manager : Manager schema}
    (idle : manager.table.updating = false) (origin : Origin) :
    manager.finishUpdate origin = pure ⟨manager, .error .noTransaction⟩ := by
  have refused : manager.table.endUpdate = .error .noTransaction := by
    rw [Table.endUpdate, idle, if_neg (by decide)]
  rw [finishUpdate, refused]

theorem finishUpdate_closes {manager : Manager schema} (opened : manager.table.updating = true)
    (origin : Origin) (store : σ) :
    ((manager.finishUpdate origin).run store).value.manager.table.updating = false ∧
      ((manager.finishUpdate origin).run store).value.result ≠ .error .noTransaction := by
  rw [finishUpdate_of_open opened]
  cases pending : manager.closed.table.hasPending with
  | false =>
    rw [if_neg (by decide)]
    exact ⟨rfl, fun same => by cases same⟩
  | true =>
    rw [if_pos rfl, run_processChanges pending]
    constructor
    · show manager.closed.processed.table.updating = false
      unfold processed
      split <;> rfl
    · show manager.closed.verdict.map _ ≠ _
      unfold verdict
      split
      · exact fun same => by cases same
      · split <;> exact fun same => by cases same

end Manager

namespace Scope

def unanswered (origin : Origin) : Except Abort (Except ConfigError Bool) → List Occurrence
  | .ok (.error error) => [.reported (.logged (.updateNotStored origin error))]
  | _ => []

variable {scope : Scope schema}

theorem run_close (scope : Scope schema) (store : σ) :
    scope.close.run store =
      let finished := (scope.manager.finishUpdate scope.origin).run store
      ⟨(⟨finished.value.manager, scope.origin, true⟩, finished.value.result), finished.store,
        finished.trace⟩ := by
  rw [close, run_bind]
  simp

theorem run_drop (held : scope.closed = false) (store : σ) :
    scope.drop.run store =
      let finished := (scope.manager.finishUpdate scope.origin).run store
      ⟨⟨finished.value.manager, finished.value.result.map fun _ => ()⟩, finished.store,
        finished.trace ++ unanswered scope.origin finished.value.result⟩ := by
  rw [drop, held, if_neg (by decide), run_bind, run_close]
  dsimp only
  cases ((scope.manager.finishUpdate scope.origin).run store).value.result with
  | error abort => rfl
  | ok stored =>
    cases stored with
    | error error => rfl
    | ok _ => rfl

theorem run_commit (scope : Scope schema) (store : σ) :
    scope.commit.run store = (scope.manager.finishUpdate scope.origin).run store := by
  rw [commit, run_bind, run_close]
  dsimp only
  -- The scope is dropped too, but it is closed by then.
  rw [run_bind, drop, if_pos rfl]
  simp

end Scope

namespace Manager

variable {manager : Manager schema} {origin : Origin} {scope last : Scope schema} {α : Type}

theorem run_withUpdate_of_ok (apply : Scope schema → Except Abort α × Scope schema)
    (begun : manager.beginUpdate origin = .ok scope) {value : α}
    (applied : apply scope = (.ok value, last)) (store : σ) :
    (manager.withUpdate origin apply).run store =
      let finished := (last.manager.finishUpdate last.origin).run store
      ⟨⟨finished.value.manager,
          finished.value.result.map fun stored => stored.map fun _ => value⟩, finished.store,
        finished.trace⟩ := by
  rw [withUpdate, begun]
  dsimp only
  rw [applied]
  dsimp only
  rw [run_bind, Scope.run_commit]
  simp

theorem run_withUpdate_of_error (apply : Scope schema → Except Abort α × Scope schema)
    (begun : manager.beginUpdate origin = .ok scope) {abort : Abort}
    (applied : apply scope = (.error abort, last)) (held : last.closed = false) (store : σ) :
    (manager.withUpdate origin apply).run store =
      let finished := (last.manager.finishUpdate last.origin).run store
      ⟨⟨finished.value.manager,
          .error (abort.ending (finished.value.result.map fun _ => ()))⟩, finished.store,
        finished.trace ++ Scope.unanswered last.origin finished.value.result⟩ := by
  rw [withUpdate, begun]
  dsimp only
  rw [applied]
  dsimp only
  rw [run_bind, Scope.run_drop held]
  simp

/-- However a scope ends, by a commit, unheeded, or because the code that used it returned or gave
up, its transaction is finished once, and the same manager, the same files, the same calls and
the same notifications come of it. Only the answers differ, and a store error that is not answered
is logged. An observer that gives up on top of the code that used the scope is fatal. -/
theorem endings_agree (idle : manager.table.updating = false) (origin : Origin)
    (requests : List (Request schema)) (message : String) (store : σ) :
    ∃ scope exchanges last,
      manager.beginUpdate origin = .ok scope ∧ scope.serve requests = (.ok exchanges, last) ∧
      let finished := (last.manager.finishUpdate origin).run store
      let left := finished.value.manager
      let result := finished.value.result
      let unanswered := Scope.unanswered origin result
      result ≠ .error .noTransaction ∧
      (∀ again : σ,
        (left.finishUpdate origin).run again = ⟨⟨left, .error .noTransaction⟩, again, []⟩) ∧
      last.commit.run store = ⟨⟨left, result⟩, finished.store, finished.trace⟩ ∧
      last.drop.run store =
        ⟨⟨left, result.map fun _ => ()⟩, finished.store, finished.trace ++ unanswered⟩ ∧
      (manager.withUpdate origin fun scope => scope.serve requests).run store =
        ⟨⟨left, result.map fun stored => stored.map fun _ => exchanges⟩, finished.store,
          finished.trace⟩ ∧
      (manager.withUpdate origin fun scope =>
          ((.error (.raised message) : Except Abort Unit), (scope.serve requests).2)).run store =
        ⟨⟨left, .error ((Abort.raised message).ending (result.map fun _ => ()))⟩, finished.store,
          finished.trace ++ unanswered⟩ := by
  have begun := beginUpdate_eq idle origin
  obtain ⟨exchanges, -, served⟩ := manager.serve_eq origin requests
  let last := manager.amid (requests.foldl Values.give manager.values)
    (exchanges.filterMap Exchange.changed?)
  have opened : last.table.updating = true := rfl
  refine ⟨_, exchanges, ⟨last, origin, false⟩, begun, served, ?_⟩
  intro finished left result unanswered
  obtain ⟨closes, finishes⟩ := finishUpdate_closes opened origin store
  refine ⟨finishes, fun again => ?_, ?_, ?_, ?_, ?_⟩
  · rw [finishUpdate_of_closed closes]
    rfl
  · exact Scope.run_commit _ store
  · exact Scope.run_drop rfl store
  · exact run_withUpdate_of_ok (fun scope => scope.serve requests) begun served store
  · exact run_withUpdate_of_error _ begun
      (congrArg (fun answer => (Except.error (Abort.raised message), answer.2)) served) rfl store

theorem endings_agree_device :
    let manager := Manager.new ⟨"device.ini"⟩ (Values.initial Device.schema)
    let listen : Request Device.schema := .update (1 : Fin 5) (Fin.mk 81 (by decide))
    manager.table.updating = false ∧ ∃ scope exchanges last,
      manager.beginUpdate .here = .ok scope ∧ scope.serve [listen] = (.ok exchanges, last) ∧
      (last.drop.run Memory.empty).value.manager = (last.commit.run Memory.empty).value.manager ∧
      (last.drop.run Memory.empty).store = (last.commit.run Memory.empty).store := by
  intro manager listen
  have idle : manager.table.updating = false := rfl
  obtain ⟨scope, exchanges, last, begun, served, -, -, commit, drop, -⟩ :=
    endings_agree idle .here [listen] "out of paper" Memory.empty
  refine ⟨idle, scope, exchanges, last, begun, served, ?_⟩
  rw [drop, commit]
  exact ⟨rfl, rfl⟩

end Manager

end IniSettings
