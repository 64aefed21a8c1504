import IniSettings.Proofs.Manager.Transactions

/-!
# Observers that give up

An observer that gives up keeps the marks of a transaction from being cleared. They stay until a
notification comes to its end, and until then each transaction stores and tells them along with its
own changes and under its own origin, even if it changes nothing.
-/

namespace IniSettings
open Script

variable {schema : Schema} {σ : Type} [Backend σ]

namespace Manager

/-- What stays marked after those fields were stored and told. -/
def leftOver (manager : Manager schema) (marked : List schema.Field) : List schema.Field :=
  match manager.verdict with
  | .error _ => marked
  | .ok _ => []

/-- What a manager and its files come to with observers that may give up at any call, and the
fields of which no notification has come to its end since they changed. -/
inductive Carrying : Manager schema → σ → List schema.Field → Prop where
  | new (path : Path) (defaults : Values schema) (store : σ) :
      Carrying (new path defaults) store []
  | withMode {manager : Manager schema} {store : σ} {carried : List schema.Field}
      (mode : WriteMode) (before : Carrying manager store carried) :
      Carrying (manager.withMode mode) store carried
  | observe {manager : Manager schema} {store : σ} {carried : List schema.Field} (label : String)
      (failure : Nat → Option String) (before : Carrying manager store carried) :
      Carrying (manager.observe label failure) store carried
  | meanwhile {manager : Manager schema} {store : σ} {carried : List schema.Field} (later : σ)
      (before : Carrying manager store carried) : Carrying manager later carried
  | load {manager : Manager schema} {store : σ} {carried : List schema.Field}
      (before : Carrying manager store carried) :
      Carrying (manager.load.run store).value.manager (manager.load.run store).store carried
  | reset {manager : Manager schema} {store : σ} {carried : List schema.Field}
      (before : Carrying manager store carried) : Carrying manager.reset store carried
  | store {manager : Manager schema} {store : σ} {carried : List schema.Field}
      (before : Carrying manager store carried) :
      Carrying manager (manager.store.run store).store carried
  | transaction {manager : Manager schema} {store : σ} {carried : List schema.Field}
      {origin : Origin} {requests : List (Request schema)} {scope last : Scope schema}
      {exchanges : List (Exchange schema)} (before : Carrying manager store carried)
      (begun : manager.beginUpdate origin = .ok scope)
      (served : scope.serve requests = (.ok exchanges, last)) (ending : Ending) :
      Carrying ((manager.transaction origin requests ending).run store).value
        ((manager.transaction origin requests ending).run store).store
        (manager.leftOver (carried ++ exchanges.filterMap Exchange.changed?))

structure Carries (manager : Manager schema) (carried : List schema.Field) : Prop where
  idle : manager.table.updating = false
  marks : manager.table.changes = ChangeSet.empty.insertAll carried

variable {manager : Manager schema} {carried changed : List schema.Field}

theorem Carries.hasPending_amid (carries : manager.Carries carried) (values : Values schema)
    (changed : List schema.Field) :
    (manager.amid values changed).table.hasPending = !(carried ++ changed).isEmpty := by
  show (!(manager.table.changes.insertAll changed).isEmpty) = _
  rw [carries.marks, ← ChangeSet.insertAll_append, ChangeSet.isEmpty_insertAll_empty]

theorem Carries.toList_amid (carries : manager.Carries carried) (values : Values schema)
    (changed : List schema.Field) :
    (manager.amid values changed).table.changes.toList =
      schema.fields.filter (carried ++ changed).contains := by
  show (manager.table.changes.insertAll changed).toList = _
  rw [carries.marks, ← ChangeSet.insertAll_append]
  exact ChangeSet.toList_insertAll_empty _

theorem Carries.processed (carries : manager.Carries carried) (values : Values schema)
    (changed : List schema.Field) :
    (manager.amid values changed).closed.processed.Carries
      (manager.leftOver (carried ++ changed)) := by
  have verdict : (manager.amid values changed).closed.verdict = manager.verdict := rfl
  rw [Manager.processed, leftOver, verdict]
  cases manager.verdict with
  | ok _ => exact ⟨rfl, rfl⟩
  | error abort =>
    refine ⟨rfl, ?_⟩
    rw [ChangeSet.insertAll_append, ← carries.marks]
    rfl

structure Finished (manager : Manager schema) (store : σ) (origin : Origin)
    (values : Values schema) (marked : List schema.Field)
    (finished : Run σ (Outcome schema (Except ConfigError Bool))) : Prop where
  quiet : marked = [] →
    finished.value.result = .ok (.ok false) ∧ finished.store = store ∧ finished.trace = []
  told : marked ≠ [] →
    let attempt := (manager.holding values).store.run store
    finished.value.result = manager.verdict.map (fun _ => attempt.value.map fun _ => true) ∧
      finished.store = attempt.store ∧
      finished.trace =
        attempt.trace ++ manager.notices origin (schema.fields.filter marked.contains)
  values : finished.value.manager.values = values
  carries : finished.value.manager.Carries (manager.leftOver marked)

theorem leftOver_nil (manager : Manager schema) : manager.leftOver [] = [] := by
  rw [leftOver]
  split <;> rfl

theorem Carries.finish (carries : manager.Carries carried) (values : Values schema)
    (changed : List schema.Field) (origin : Origin) (store : σ) :
    manager.Finished store origin values (carried ++ changed)
      (((manager.amid values changed).finishUpdate origin).run store) := by
  have pending : (manager.amid values changed).closed.table.hasPending =
      !(carried ++ changed).isEmpty := carries.hasPending_amid values changed
  rw [finishUpdate_of_open rfl]
  by_cases nothing : carried ++ changed = []
  · rw [pending, nothing, List.isEmpty_nil, Bool.not_true, if_neg (by decide), run_pure]
    obtain ⟨rfl, rfl⟩ := List.append_eq_nil_iff.1 nothing
    refine ⟨fun _ => ⟨rfl, rfl, rfl⟩, fun marked => absurd rfl marked, rfl, ?_⟩
    rw [leftOver_nil]
    exact ⟨rfl, carries.marks⟩
  · have raised : (manager.amid values changed).closed.table.hasPending = true := by
      rw [pending]
      simpa using nothing
    rw [if_pos raised, run_processChanges raised]
    refine ⟨fun unmarked => absurd unmarked nothing, fun _ => ⟨rfl, rfl, ?_⟩, ?_, ?_⟩
    · show _ ++ manager.notices origin (manager.amid values changed).table.changes.toList = _
      rw [carries.toList_amid]
      rfl
    · show (manager.amid values changed).closed.processed.values = values
      rw [Manager.processed]
      split <;> rfl
    · exact carries.processed values changed

theorem Carrying.carries {store : σ} (carrying : manager.Carrying store carried) :
    manager.Carries carried := by
  induction carrying with
  | new path defaults store => exact ⟨rfl, rfl⟩
  | withMode mode before ih => exact ⟨ih.idle, ih.marks⟩
  | observe label failure before ih => exact ⟨ih.idle, ih.marks⟩
  | meanwhile later before ih => exact ih
  | @load manager store carried before ih =>
    rw [(load_eq manager ih.idle store).1]
    exact ⟨ih.idle, ih.marks⟩
  | reset before ih => exact ⟨ih.idle, ih.marks⟩
  | store before ih => exact ih
  | @transaction manager store carried origin requests scope last exchanges before begun served
      ending ih =>
    obtain rfl := Except.ok.inj ((beginUpdate_eq ih.idle origin).symm.trans begun)
    obtain ⟨answers, -, answered⟩ := manager.serve_eq origin requests
    obtain ⟨same, -⟩ := Prod.mk.inj (answered.symm.trans served)
    obtain rfl := Except.ok.inj same
    rw [(run_transaction ih.idle origin requests ending store).1,
      run_commit ih.idle origin answered]
    exact (ih.finish _ _ origin store).carries

theorem filter_append_eq_iff :
    schema.fields.filter (carried ++ changed).contains = schema.fields.filter changed.contains ↔
      carried ⊆ changed := by
  constructor
  · intro same field member
    have told : field ∈ schema.fields.filter (carried ++ changed).contains :=
      List.mem_filter.2 ⟨Schema.mem_fields field,
        List.contains_iff_mem.2 (List.mem_append_left _ member)⟩
    rw [same] at told
    exact List.contains_iff_mem.1 (List.mem_filter.1 told).2
  · intro part
    refine List.filter_congr fun field _ => ?_
    rw [Bool.eq_iff_iff, List.contains_iff_mem, List.contains_iff_mem, List.mem_append]
    exact ⟨fun either => either.elim (@part field) id, .inr⟩

/-- Whatever observers did before, a scope begins with the marks that were carried over to it, and
its end stores and tells them and its own changes together, under its own origin. So it tells its
own changes alone exactly if it changed all that was carried over to it, and is quiet only if there
was nothing of either. -/
theorem Carrying.commit_tells {store : σ} (carrying : manager.Carrying store carried)
    (origin : Origin) (requests : List (Request schema)) :
    ∃ scope exchanges last,
      manager.beginUpdate origin = .ok scope ∧ scope.serve requests = (.ok exchanges, last) ∧
      exchanges.map Exchange.request = requests ∧
      let changed := exchanges.filterMap Exchange.changed?
      let told := schema.fields.filter (carried ++ changed).contains
      let final := requests.foldl Values.give manager.values
      let attempt := (manager.holding final).store.run store
      let committed := last.commit.run store
      scope.hasPending = !carried.isEmpty ∧ last.hasPending = !(carried ++ changed).isEmpty ∧
      (carried ++ changed = [] →
        committed.value.result = .ok (.ok false) ∧ committed.store = store ∧
          committed.trace = []) ∧
      (carried ++ changed ≠ [] →
        attempt.attempts = 1 ∧ attempt.notifications = [] ∧
          committed.value.result =
            manager.verdict.map (fun _ => attempt.value.map fun _ => true) ∧
          committed.store = attempt.store ∧
          committed.trace = attempt.trace ++ manager.notices origin told) ∧
      (told = schema.fields.filter changed.contains ↔ carried ⊆ changed) ∧
      committed.value.manager.values = final ∧
      committed.value.manager.Carrying committed.store
        (manager.leftOver (carried ++ changed)) := by
  have carries := carrying.carries
  obtain ⟨exchanges, asked, served⟩ := manager.serve_eq origin requests
  have begun := beginUpdate_eq carries.idle origin
  refine ⟨_, exchanges, _, begun, served, asked, ?_⟩
  intro changed told final attempt committed
  have run : committed = (manager.commit origin requests).run store :=
    (Scope.run_commit _ store).trans (run_commit carries.idle origin served store).symm
  have finished : manager.Finished store origin final (carried ++ changed) committed := by
    rw [run, run_commit carries.idle origin served]
    exact carries.finish final changed origin store
  refine ⟨?_, carries.hasPending_amid final changed, finished.quiet, fun marked => ?_,
    filter_append_eq_iff, finished.values, ?_⟩
  · show (manager.amid manager.values []).table.hasPending = _
    rw [carries.hasPending_amid, List.append_nil]
  · obtain ⟨answer, stored, trace⟩ := finished.told marked
    exact ⟨Document.save_attempts _ _ _ store, (Document.save_silent _ _ _).notifications store,
      answer, stored, trace⟩
  · have after := carrying.transaction begun served .commit
    obtain ⟨value, same⟩ := run_transaction carries.idle origin requests .commit store
    rw [value, same, ← run] at after
    exact after

end Manager

def Device.jumpy : Manager Device.schema :=
  (Manager.new ⟨"device.ini"⟩ (Values.initial Device.schema)).observe "screen" fun call =>
    if call = 1 then some "observer failed" else none

def Device.startled : Run Memory (Manager Device.schema) :=
  (Device.jumpy.transaction (.remote "panel") [.update Device.portPlace Device.otherPort]
    .commit).run Memory.empty

theorem Device.carrying_startled :
    Device.startled.value.Carrying Device.startled.store [(1 : Fin 5)] := by
  have untouched : Device.jumpy.Carrying Memory.empty [] := .observe _ _ (.new _ _ _)
  have begun := Manager.beginUpdate_eq (rfl : Device.jumpy.table.updating = false) (.remote "panel")
  let change : Request Device.schema := .update Device.portPlace Device.otherPort
  have served : (Scope.mk (Device.jumpy.amid Device.jumpy.values []) (.remote "panel") false).serve
      [change] = (.ok [⟨change, true⟩], _) := rfl
  exact untouched.transaction begun served .commit

theorem Manager.Carrying.commit_tells_startled :
    let mute : Request Device.schema := .update (2 : Fin 5) false
    Device.startled.value.Carrying Device.startled.store [(1 : Fin 5)] ∧
      ∃ scope exchanges last, Device.startled.value.beginUpdate .here = .ok scope ∧
        scope.serve [mute] = (.ok exchanges, last) ∧
        exchanges.filterMap Exchange.changed? = [(2 : Fin 5)] ∧
        (last.commit.run Device.startled.store).notifications = [⟨"screen", .here, [1, 2]⟩] := by
  intro mute
  obtain ⟨scope, exchanges, last, begun, served, -, -, -, -, told, -⟩ :=
    Manager.Carrying.commit_tells Device.carrying_startled .here [mute]
  obtain rfl := Except.ok.inj begun
  obtain rfl := Except.ok.inj (congrArg Prod.fst served)
  obtain ⟨-, quiet, -, -, trace⟩ := told (by decide)
  refine ⟨Device.carrying_startled, _, _, last, begun, served, rfl, ?_⟩
  rw [Run.notifications] at quiet ⊢
  rw [trace, List.filterMap_append, quiet]
  rfl

/-- After an observer gave up, a scope that has changed nothing has changes pending, its commit
stores and tells a change of another origin, and a transaction that does change something does not
tell that alone. -/
theorem Manager.Carrying.tells_what_others_changed :
    let mute : Request Device.schema := .update (2 : Fin 5) false
    Device.startled.value.Carrying Device.startled.store [(1 : Fin 5)] ∧
      ∃ scope last, Device.startled.value.beginUpdate .here = .ok scope ∧
        scope.serve [mute] = (.ok [⟨mute, true⟩], last) ∧ scope.hasPending = true ∧
        let unchanged := scope.commit.run Device.startled.store
        let changed := last.commit.run Device.startled.store
        unchanged.value.result = .ok (.ok true) ∧ unchanged.attempts = 1 ∧
          unchanged.notifications = [⟨"screen", .here, [1]⟩] ∧
          changed.notifications ≠ [⟨"screen", .here, [2]⟩] := by
  intro mute
  have begun := Manager.beginUpdate_eq (rfl : Device.startled.value.table.updating = false) .here
  refine ⟨Device.carrying_startled, _, _, begun, rfl, rfl, rfl, rfl, rfl, ?_⟩
  decide +kernel

end IniSettings
