import IniSettings.Proofs.Manager.Frame
import IniSettings.Proofs.Manager.Reloading
import IniSettings.Proofs.Manager.Transactions

/-!
# What a commit answers

A commit that answers with a change has stored all values, and one that answers without a change
has found every field with the value that it was given. Nothing else is known of a commit that
failed or was given up, but that its values are the ones that were asked for.
-/

namespace IniSettings
open Script

variable {schema : Schema}

namespace Manager

variable {σ : Type} [Backend σ] {store : σ} {manager : Manager schema} {origin : Origin}

theorem finishUpdate_keeps (opened : manager.table.updating = true) (origin : Origin)
    (store : σ) :
    let left := ((manager.finishUpdate origin).run store).value.manager
    left.values = manager.values ∧ left.path = manager.path ∧ left.defaults = manager.defaults := by
  rw [finishUpdate_of_open opened]
  cases pending : manager.closed.table.hasPending with
  | false => exact ⟨rfl, rfl, rfl⟩
  | true =>
    rw [if_pos rfl, run_processChanges pending]
    dsimp only [processed]
    split <;> exact ⟨rfl, rfl, rfl⟩

theorem finishUpdate_cases (opened : manager.table.updating = true) (origin : Origin)
    (store : σ) :
    let finished := (manager.finishUpdate origin).run store
    let attempt := manager.store.run store
    (manager.closed.table.hasPending = false ∧ finished.value.result = .ok (.ok false) ∧
        finished.store = store) ∨
      (finished.value.result =
          manager.closed.verdict.map (fun _ => attempt.value.map fun _ => true) ∧
        finished.store = attempt.store) := by
  rw [finishUpdate_of_open opened]
  cases pending : manager.closed.table.hasPending with
  | false => exact .inl ⟨rfl, rfl, rfl⟩
  | true =>
    rw [if_pos rfl, run_processChanges pending]
    exact .inr ⟨rfl, rfl⟩

theorem stored_of_answer {verdict : Except Abort Unit} {stored : Except ConfigError Unit}
    {changed : Bool}
    (answered : (verdict.map fun _ => stored.map fun _ => true) = .ok (.ok changed)) :
    stored = .ok () ∧ changed = true := by
  cases verdict with
  | error abort => cases answered
  | ok _ =>
    cases stored with
    | error error => cases answered
    | ok _ => exact ⟨rfl, (Except.ok.inj (Except.ok.inj answered)).symm⟩

theorem eq_nil_of_quiet {values : Values schema} {changed : List schema.Field}
    (quiet : (manager.amid values changed).closed.table.hasPending = false) : changed = [] := by
  have isEmpty : (manager.amid values changed).closed.table.changes.isEmpty = true := by
    simpa [Table.hasPending] using quiet
  exact ChangeSet.eq_nil_of_isEmpty_insertAll isEmpty

structure Left (manager left : Manager schema) (values : Values schema) : Prop where
  idle : left.table.updating = false
  values : left.values = values
  path : left.path = manager.path
  defaults : left.defaults = manager.defaults

theorem commit_left (idle : manager.table.updating = false) (origin : Origin)
    (requests : List (Request schema)) (store : σ) :
    manager.Left ((manager.commit origin requests).run store).value.manager
      (requests.foldl Values.give manager.values) := by
  obtain ⟨exchanges, -, served⟩ := manager.serve_eq origin requests
  rw [run_commit idle origin served]
  dsimp only
  let last := manager.amid (requests.foldl Values.give manager.values)
    (exchanges.filterMap Exchange.changed?)
  have opened : last.table.updating = true := rfl
  obtain ⟨values, path, defaults⟩ := finishUpdate_keeps opened origin store
  exact ⟨(finishUpdate_closes opened origin store).1, values, path, defaults⟩

theorem commit_answer (wellFormed : schema.WellFormed) (idle : manager.table.updating = false)
    {requests : List (Request schema)} {memory : Memory} {changed : Bool}
    (answered : ((manager.commit origin requests).run memory).value.result = .ok (.ok changed)) :
    let final := requests.foldl Values.give manager.values
    let later := ((manager.commit origin requests).run memory).store
    (changed = true ∧ final.StoredAt manager.path later) ∨
      (changed = false ∧ final = manager.values ∧ later = memory) := by
  obtain ⟨exchanges, -, served⟩ := manager.serve_eq origin requests
  rw [run_commit idle origin served] at answered ⊢
  dsimp only at answered ⊢
  let last := manager.amid (requests.foldl Values.give manager.values)
    (exchanges.filterMap Exchange.changed?)
  rcases finishUpdate_cases (rfl : last.table.updating = true) origin memory with
    ⟨quiet, unchanged, same⟩ | ⟨result, attempt⟩
  · have nothing := eq_nil_of_quiet quiet
    refine .inr ⟨?_, ?_, same⟩
    · exact (Except.ok.inj (Except.ok.inj (unchanged.symm.trans answered))).symm
    · ext field
      exact Scope.serve_kept served (by simp [nothing])
  · obtain ⟨stored, rfl⟩ := stored_of_answer (result.symm.trans answered)
    refine .inl ⟨rfl, ?_⟩
    rw [attempt]
    exact store_storedAt wellFormed last memory stored

theorem Fresh.settled (fresh : manager.Fresh) : manager.Settled := by
  refine ⟨fresh.idle, ?_⟩
  rw [fresh]
  rfl

theorem run_unbox_eq (idle : manager.table.updating = false) {name : String}
    {field : schema.Field} (named : schema.named? name = some field) {boxed : BoxedValue}
    {result : UnboxResult} {values : Values schema} {changed : List schema.Field}
    (unboxed : (manager.amid manager.values []).table.unbox field boxed =
      .ok (result, (manager.amid values changed).table)) (store : σ) :
    (manager.withUpdate .here fun scope => scope.unbox name boxed).run store =
      let finished := ((manager.amid values changed).finishUpdate .here).run store
      ⟨⟨finished.value.manager,
          finished.value.result.map fun stored => stored.map fun _ => result⟩, finished.store,
        finished.trace⟩ := by
  have applied : (Scope.mk (manager.amid manager.values []) .here false).unbox name boxed =
      (.ok result, ⟨manager.amid values changed, .here, false⟩) := by
    rw [Scope.unbox, named]
    dsimp only
    rw [unboxed]
    rfl
  exact run_withUpdate_of_ok (fun scope => scope.unbox name boxed) (beginUpdate_eq idle .here)
    applied store

/-- All that a boxed value can do in a transaction of its own. -/
theorem run_unbox (settled : manager.Settled) {name : String} {field : schema.Field}
    (named : schema.named? name = some field) (boxed : BoxedValue) (store : σ) :
    let done := (manager.withUpdate .here fun scope => scope.unbox name boxed).run store
    (∃ result, result.isAccepted = false ∧ done = ⟨⟨manager, .ok (.ok result)⟩, store, []⟩) ∨
      ∃ value, (schema.spec field).type.unbox boxed = .ok value ∧
        ((manager.values field = value ∧ done = ⟨⟨manager, .ok (.ok .unchanged)⟩, store, []⟩) ∨
          let attempt := (manager.holding (manager.values.set field value)).store.run store
          done.value.result = manager.verdict.map (fun _ => attempt.value.map fun _ => .updated) ∧
            done.store = attempt.store) := by
  intro done
  let amid := manager.amid manager.values []
  obtain ⟨result, later, unboxed⟩ :
      ∃ result later, amid.table.unbox field boxed = .ok (result, later) := by
    obtain ⟨result, unboxed⟩ := Table.unbox_eq (rfl : amid.table.updating = true) field boxed
    exact ⟨result, _, unboxed⟩
  have quiet : (amid.finishUpdate .here).run store = ⟨⟨manager, .ok (.ok false)⟩, store, []⟩ := by
    rw [settled.finish_unchanged manager.values .here]
    rfl
  rcases Table.unbox_cases unboxed with
    ⟨refused, rfl⟩ | ⟨value, -, opened, ⟨rfl, same, rfl⟩ | ⟨rfl, -, rfl⟩⟩
  · have run : done = _ := run_unbox_eq settled.idle named unboxed store
    rw [quiet] at run
    exact .inl ⟨result, refused, run⟩
  · have run : done = _ := run_unbox_eq settled.idle named unboxed store
    rw [quiet] at run
    exact .inr ⟨value, opened, .inl ⟨same, run⟩⟩
  · refine .inr ⟨value, opened, .inr ?_⟩
    let last := manager.amid (manager.values.set field value) [field]
    have marked : amid.table.unbox field boxed = .ok (.updated, last.table) := unboxed
    have run : done = _ := run_unbox_eq settled.idle named marked store
    rcases finishUpdate_cases (rfl : last.table.updating = true) .here store with
      ⟨unmarked, -⟩ | ⟨answered, stored⟩
    · cases eq_nil_of_quiet unmarked
    · rw [run]
      refine ⟨?_, stored⟩
      show ((last.finishUpdate .here).run store).value.result.map _ = _
      rw [answered]
      show (manager.verdict.map fun _ => (last.store.run store).value.map fun _ => true).map _ =
        manager.verdict.map fun _ => (last.store.run store).value.map fun _ => UnboxResult.updated
      cases manager.verdict with
      | error abort => rfl
      | ok _ => cases (last.store.run store).value <;> rfl

theorem run_unbox_faultless (idle : manager.table.updating = false) {memory : Memory}
    (faultless : memory.Faultless) {name : String} {field : schema.Field}
    (named : schema.named? name = some field)
    (writable : (schema.spec field).isReadOnly = false) (boxed : BoxedValue) :
    let done := (manager.withUpdate .here fun scope => scope.unbox name boxed).run memory
    ∃ result : UnboxResult,
      (result.isAccepted = true ↔ ∃ value, (schema.spec field).type.unbox boxed = .ok value) ∧
      done.value.manager.values = manager.values.giveBoxed field boxed ∧
      (done.value.result = .ok (.ok result) ∨
        done.value.result = manager.verdict.map fun _ => .ok result) := by
  intro done
  obtain ⟨result, changed, unboxed, accepts⟩ := Table.unbox_writable
    (rfl : (manager.amid manager.values []).table.updating = true) writable boxed
  let last := manager.amid (manager.values.giveBoxed field boxed) changed
  have opened : last.table.updating = true := rfl
  have run : done = _ := run_unbox_eq idle named unboxed memory
  rw [run]
  refine ⟨result, accepts, (finishUpdate_keeps opened .here memory).1, ?_⟩
  show ((last.finishUpdate .here).run memory).value.result.map _ = _ ∨
    ((last.finishUpdate .here).run memory).value.result.map _ = _
  rcases finishUpdate_cases opened .here memory with ⟨-, quiet, -⟩ | ⟨told, -⟩
  · left
    rw [quiet]
    rfl
  · right
    have stored := (store_faultless last faultless).1
    rw [told, stored]
    show (manager.verdict.map _).map _ = _
    cases manager.verdict <;> rfl

end Manager

end IniSettings
