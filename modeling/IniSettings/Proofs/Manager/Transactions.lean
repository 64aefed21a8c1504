import IniSettings.Proofs.Manager.Closing
import IniSettings.Proofs.Manager.Loading
import IniSettings.Proofs.Saving.Attempts

/-!
# Transactions one after another

Between transactions nothing is marked, so each of them stores and tells what was changed in it and
nothing else: if a request was answered with a change, the final values are stored once and the
observer is told once, whether they could be stored or not.
-/

namespace IniSettings
open Script

variable {schema : Schema} {σ : Type} [Backend σ]

namespace Manager

/-- What a manager and its files come to by loading, resetting, storing and transactions, with
observers that do not give up. In between, the files may change and fail in any way. -/
inductive Reachable : Manager schema → σ → Prop where
  | new (path : Path) (defaults : Values schema) (store : σ) : Reachable (new path defaults) store
  | withMode {manager : Manager schema} {store : σ} (mode : WriteMode)
      (before : Reachable manager store) : Reachable (manager.withMode mode) store
  | observe {manager : Manager schema} {store : σ} (label : String)
      {failure : Nat → Option String} (returns : ∀ call, failure call = none)
      (before : Reachable manager store) : Reachable (manager.observe label failure) store
  | meanwhile {manager : Manager schema} {store : σ} (later : σ)
      (before : Reachable manager store) : Reachable manager later
  | load {manager : Manager schema} {store : σ} (before : Reachable manager store) :
      Reachable (manager.load.run store).value.manager (manager.load.run store).store
  | reset {manager : Manager schema} {store : σ} (before : Reachable manager store) :
      Reachable manager.reset store
  | store {manager : Manager schema} {store : σ} (before : Reachable manager store) :
      Reachable manager (manager.store.run store).store
  | transaction {manager : Manager schema} {store : σ} (origin : Origin)
      (requests : List (Request schema)) (ending : Ending) (before : Reachable manager store) :
      Reachable ((manager.transaction origin requests ending).run store).value
        ((manager.transaction origin requests ending).run store).store

structure Settled (manager : Manager schema) : Prop where
  idle : manager.table.updating = false
  unmarked : manager.table.changes = ChangeSet.empty

def Returns (manager : Manager schema) : Prop :=
  ∀ observer ∈ manager.observer, ∀ call, observer.failure call = none

def holding (manager : Manager schema) (values : Values schema) : Manager schema :=
  { manager with table := { manager.table with values } }

variable {manager : Manager schema} {values : Values schema} {changed : List schema.Field}

theorem Settled.holding (settled : manager.Settled) (values : Values schema) :
    (manager.holding values).Settled :=
  ⟨settled.idle, settled.unmarked⟩

theorem Settled.put (settled : manager.Settled) (values : Values schema) :
    (manager.put values).Settled :=
  ⟨settled.idle, settled.unmarked⟩

theorem Settled.told (settled : manager.Settled) : manager.told.Settled :=
  ⟨settled.idle, settled.unmarked⟩

theorem Returns.told (returns : manager.Returns) : manager.told.Returns := by
  intro observer member
  obtain ⟨old, there, rfl⟩ := Option.map_eq_some_iff.1 member
  exact returns old there

theorem Returns.verdict (returns : manager.Returns) : manager.verdict = .ok () := by
  unfold Manager.verdict
  cases found : manager.observer with
  | none => rfl
  | some observer =>
    dsimp only
    rw [returns observer found]

theorem Settled.hasPending_amid (settled : manager.Settled) (values : Values schema)
    (changed : List schema.Field) :
    (manager.amid values changed).closed.table.hasPending = !changed.isEmpty := by
  show (!(manager.table.changes.insertAll changed).isEmpty) = _
  rw [settled.unmarked, ChangeSet.isEmpty_insertAll_empty]

theorem Settled.finish_unchanged (settled : manager.Settled) (values : Values schema)
    (origin : Origin) :
    (manager.amid values []).finishUpdate origin =
      pure ⟨manager.holding values, .ok (.ok false)⟩ := by
  have closed : (manager.amid values []).closed = manager.holding values := by
    show { manager with table := { manager.table with values := values, updating := false } } = _
    rw [Manager.holding, ← settled.idle]
  rw [finishUpdate_of_open rfl, settled.hasPending_amid, closed]
  rfl

theorem Settled.finish_changed (settled : manager.Settled) (returns : manager.Returns)
    (values : Values schema) (changes : changed ≠ []) (origin : Origin) (store : σ) :
    ((manager.amid values changed).finishUpdate origin).run store =
      let attempt := (manager.holding values).store.run store
      ⟨⟨manager.told.holding values, .ok (attempt.value.map fun _ => true)⟩, attempt.store,
        attempt.trace ++ manager.notices origin (schema.fields.filter changed.contains)⟩ := by
  have pending : (manager.amid values changed).closed.table.hasPending = true := by
    rw [settled.hasPending_amid]
    simpa using changes
  have verdict : (manager.amid values changed).closed.verdict = .ok () := returns.verdict
  have told : (manager.amid values changed).closed.processed = manager.told.holding values := by
    rw [processed, verdict]
    show { manager.told with table := { manager.table with
      values := values, updating := false, changes := .empty } } = _
    rw [Manager.holding, ← settled.idle, ← settled.unmarked]
    rfl
  -- Nothing was marked before, so the marks are the changes of this transaction.
  have fields : (manager.amid values changed).closed.table.changes.toList =
      schema.fields.filter changed.contains := by
    show (manager.table.changes.insertAll changed).toList = _
    rw [settled.unmarked]
    exact ChangeSet.toList_insertAll_empty changed
  rw [finishUpdate_of_open rfl, if_pos pending, run_processChanges pending, told, fields, verdict]
  rfl

theorem Settled.finish (settled : manager.Settled) (returns : manager.Returns)
    (values : Values schema) (changed : List schema.Field) (origin : Origin) (store : σ) :
    let left := (((manager.amid values changed).finishUpdate origin).run store).value.manager
    left.Settled ∧ left.Returns ∧ left.values = values := by
  by_cases changes : changed = []
  · subst changes
    rw [settled.finish_unchanged]
    exact ⟨settled.holding values, returns, rfl⟩
  · rw [settled.finish_changed returns values changes]
    exact ⟨settled.told.holding values, returns.told, rfl⟩

theorem run_commit (idle : manager.table.updating = false) (origin : Origin)
    {requests : List (Request schema)} {exchanges : List (Exchange schema)} {last : Scope schema}
    (served : (Scope.mk (manager.amid manager.values []) origin false).serve requests =
      (.ok exchanges, last)) (store : σ) :
    (manager.commit origin requests).run store =
      (last.manager.finishUpdate last.origin).run store := by
  rw [commit, beginUpdate_eq idle origin]
  dsimp only
  rw [served]
  exact Scope.run_commit last store

/-- However a transaction ends, it leaves what its commit would leave. -/
theorem run_transaction (idle : manager.table.updating = false) (origin : Origin)
    (requests : List (Request schema)) (ending : Ending) (store : σ) :
    ((manager.transaction origin requests ending).run store).value =
        ((manager.commit origin requests).run store).value.manager ∧
      ((manager.transaction origin requests ending).run store).store =
        ((manager.commit origin requests).run store).store := by
  have begun := beginUpdate_eq idle origin
  obtain ⟨exchanges, -, served⟩ := manager.serve_eq origin requests
  rw [run_commit idle origin served]
  cases ending with
  | commit =>
    rw [transaction, begun]
    dsimp only
    rw [run_bind, served]
    dsimp only
    rw [Scope.run_commit]
    exact ⟨rfl, rfl⟩
  | drop =>
    rw [transaction, begun]
    dsimp only
    rw [run_bind, served]
    dsimp only
    rw [Scope.run_drop rfl]
    exact ⟨rfl, rfl⟩
  | returning =>
    rw [transaction, run_bind,
      run_withUpdate_of_ok (fun scope => scope.serve requests) begun served]
    exact ⟨rfl, rfl⟩
  | raising message =>
    rw [transaction, run_bind, run_withUpdate_of_error _ begun
      (congrArg (fun answer => (Except.error (Abort.raised message), answer.2)) served) rfl]
    exact ⟨rfl, rfl⟩

theorem Reachable.settled {store : σ} (reachable : manager.Reachable store) :
    manager.Settled ∧ manager.Returns := by
  induction reachable with
  | new path defaults store => exact ⟨⟨rfl, rfl⟩, fun observer registered => by cases registered⟩
  | withMode mode before ih => exact ⟨⟨ih.1.idle, ih.1.unmarked⟩, ih.2⟩
  | observe label returns before ih =>
    refine ⟨⟨ih.1.idle, ih.1.unmarked⟩, ?_⟩
    intro observer member
    obtain rfl := Option.some.inj member
    exact returns
  | meanwhile later before ih => exact ih
  | @load manager store before ih =>
    rw [(load_eq manager ih.1.idle store).1]
    exact ⟨ih.1.put _, ih.2⟩
  | reset before ih => exact ⟨ih.1.put _, ih.2⟩
  | store before ih => exact ih
  | @transaction manager store origin requests ending before ih =>
    obtain ⟨exchanges, -, served⟩ := manager.serve_eq origin requests
    rw [(run_transaction ih.1.idle origin requests ending store).1,
      run_commit ih.1.idle origin served]
    obtain ⟨settled, returns, -⟩ := ih.1.finish ih.2 (requests.foldl Values.give manager.values)
      (exchanges.filterMap Exchange.changed?) origin store
    exact ⟨settled, returns⟩

/-- In every state that a manager comes to, a transaction that changes nothing does nothing, and
one that changes some fields stores the final values in one attempt, tells the observer once of
exactly those fields, and answers how the attempt went. -/
theorem Reachable.commit_once {store : σ} (reachable : manager.Reachable store) :
    manager.Settled ∧
      ∀ (origin : Origin) (requests : List (Request schema)), ∃ scope exchanges last,
        manager.beginUpdate origin = .ok scope ∧ scope.serve requests = (.ok exchanges, last) ∧
        exchanges.map Exchange.request = requests ∧
        let changed := exchanges.filterMap Exchange.changed?
        let final := requests.foldl Values.give manager.values
        let attempt := (manager.holding final).store.run store
        let committed := last.commit.run store
        (changed = [] →
          committed.value.result = .ok (.ok false) ∧ committed.store = store ∧
            committed.trace = []) ∧
        (changed ≠ [] →
          attempt.attempts = 1 ∧ attempt.notifications = [] ∧
            committed.value.result = .ok (attempt.value.map fun _ => true) ∧
            committed.store = attempt.store ∧
            committed.trace = attempt.trace ++
              manager.notices origin (schema.fields.filter changed.contains)) ∧
        committed.value.manager.values = final ∧ committed.value.manager.Settled := by
  obtain ⟨settled, returns⟩ := reachable.settled
  refine ⟨settled, fun origin requests => ?_⟩
  obtain ⟨exchanges, asked, served⟩ := manager.serve_eq origin requests
  refine ⟨_, exchanges, _, beginUpdate_eq settled.idle origin, served, asked, ?_⟩
  intro changed final attempt committed
  have run : committed = ((manager.amid final changed).finishUpdate origin).run store :=
    Scope.run_commit _ store
  obtain ⟨after, -, values⟩ := settled.finish returns final changed origin store
  rw [← run] at after values
  refine ⟨fun unchanged => ?_, fun changes => ?_, values, after⟩
  · rw [unchanged, settled.finish_unchanged] at run
    rw [run]
    exact ⟨rfl, rfl, rfl⟩
  · rw [settled.finish_changed returns final changes] at run
    rw [run]
    exact ⟨Document.save_attempts _ _ _ store, (Document.save_silent _ _ _).notifications store,
      rfl, rfl, rfl⟩

end Manager

def Device.watched : Manager Device.schema :=
  (Manager.new ⟨"device.ini"⟩ (Values.initial Device.schema)).observe "screen" fun _ => none

theorem Manager.Reachable.commit_once_watched :
    let listen : Request Device.schema := .update (1 : Fin 5) (Fin.mk 81 (by decide))
    Device.watched.Reachable Memory.empty ∧ ∃ scope exchanges last,
      Device.watched.beginUpdate .here = .ok scope ∧
      scope.serve [listen] = (.ok exchanges, last) ∧
      (last.commit.run Memory.empty).notifications = [⟨"screen", .here, [1]⟩] := by
  intro listen
  have reachable : Device.watched.Reachable Memory.empty :=
    .observe "screen" (fun _ => rfl) (.new _ _ _)
  obtain ⟨-, once⟩ := reachable.commit_once
  obtain ⟨scope, exchanges, last, begun, served, asked, -, batch, -⟩ := once .here [listen]
  obtain rfl := Except.ok.inj begun
  obtain rfl := Except.ok.inj (congrArg Prod.fst served)
  obtain ⟨-, quiet, -, -, trace⟩ := batch (by decide)
  refine ⟨reachable, _, _, last, begun, served, ?_⟩
  rw [Run.notifications] at quiet ⊢
  rw [trace, List.filterMap_append, quiet]
  rfl

end IniSettings
