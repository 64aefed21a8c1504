import IniSettings.Proofs.Settings.InPlace
import Mathlib.Data.List.DropRight

/-!
# What a table has been through

Operations are done to a table one after another, in any order, and some of them are aborted. The
marks of the table tell which fields were changed since the changes were last processed, and each
field that shares its member with none of them holds what it held then or what was put into it
since.
-/

namespace IniSettings

variable {schema : Schema}

namespace Table

structure Event (schema : Schema) where
  operation : Operation schema
  reply : Except Abort operation.Reply
  table : Table schema

namespace Event

def changed? : Event schema → Option schema.Field
  | ⟨.update field _, .ok changed, _⟩ => if changed then some field else none
  | ⟨.unbox field _, .ok result, _⟩ => if result = .updated then some field else none
  | _ => none

def isProcessed : Event schema → Bool
  | ⟨.changesProcessed, .ok _, _⟩ => true
  | _ => false

def put? : Event schema → Option (Values schema)
  | ⟨.put values, _, _⟩ => some values
  | _ => none

def opens? : Event schema → Option Bool
  | ⟨.beginUpdate, .ok _, _⟩ => some true
  | ⟨.endUpdate, .ok _, _⟩ => some false
  | _ => none

end Event

def event (table : Table schema) (operation : Operation schema) : Event schema :=
  ⟨operation, (table.perform operation).1, (table.perform operation).2⟩

def after (initial : Values schema) (events : List (Event schema)) : Table schema :=
  (events.getLast?.map Event.table).getD (new initial)

def history (initial : Values schema) (operations : List (Operation schema)) :
    List (Event schema) :=
  operations.foldl (fun events operation => events ++ [(after initial events).event operation]) []

/-- What happened since changes were last processed or, if they never were, at all. -/
def recent (events : List (Event schema)) : List (Event schema) :=
  events.rtakeWhile fun event => !event.isProcessed

/-- The table as it was when changes were last processed or, if they never were, when it was
made. -/
def settled (initial : Values schema) (events : List (Event schema)) : Table schema :=
  after initial (events.filter Event.isProcessed)

/-! ## When an operation is aborted -/

def Operation.Refused (table : Table schema) : Operation schema → Prop
  | .put _ => False
  | .update _ _ => table.updating = false
  | .unbox field boxed =>
    table.updating = false ∧ (schema.spec field).access = .readWrite ∧
      ∃ value, (schema.spec field).type.unbox boxed = .ok value
  | .changesProcessed => ∀ field, table.changes.contains field = false
  | .beginUpdate => table.updating = true
  | .endUpdate => table.updating = false

variable {table : Table schema}

theorem perform_eq_error_iff {operation : Operation schema} {abort : Abort} :
    (table.perform operation).1 = .error abort ↔ table.answer operation = .error abort := by
  rw [perform]
  cases table.answer operation with
  | ok answer => simp
  | error other => simp

theorem perform_of_error {operation : Operation schema} {abort : Abort}
    (aborted : (table.perform operation).1 = .error abort) :
    (table.perform operation).2 = table := by
  rw [perform, perform_eq_error_iff.1 aborted]

theorem refused_update_iff (field : schema.Field) (value : (schema.spec field).type.Value) :
    (∃ abort, table.update field value = .error abort) ↔ table.updating = false := by
  cases opened : table.updating with
  | false => simp [update_of_closed opened]
  | true =>
    obtain ⟨changed, updated⟩ := update_eq opened field value
    simp [updated]

theorem refused_unbox_iff (field : schema.Field) (boxed : BoxedValue) :
    (∃ abort, table.unbox field boxed = .error abort) ↔
      Operation.Refused table (.unbox field boxed) := by
  cases opened : table.updating with
  | true =>
    obtain ⟨result, unboxed⟩ := unbox_eq opened field boxed
    simp [unboxed, Operation.Refused, opened]
  | false =>
    rw [unbox, Operation.Refused, FieldSpec.isReadOnly]
    cases (schema.spec field).access with
    | readOnly => simp
    | readWrite =>
      cases (schema.spec field).type.unbox boxed with
      | error error => simp
      | ok value => simp [update_of_closed opened, bind, Except.bind, opened]

theorem refused_iff (bounded : table.changes.Bounded) (operation : Operation schema) :
    (∃ abort, (table.perform operation).1 = .error abort) ↔ operation.Refused table := by
  simp only [perform_eq_error_iff]
  cases operation with
  | put values => simp [answer, Operation.Refused]
  | update field value => exact refused_update_iff field value
  | unbox field boxed => exact refused_unbox_iff field boxed
  | changesProcessed =>
    rw [Operation.Refused, ← bounded.isEmpty_iff, answer, Table.changesProcessed, hasPending]
    cases table.changes.isEmpty <;> simp [Except.map]
  | beginUpdate =>
    rw [Operation.Refused, answer, Table.beginUpdate]
    cases table.updating <;> simp [Except.map]
  | endUpdate =>
    rw [Operation.Refused, answer, Table.endUpdate]
    cases table.updating <;> simp [Except.map]

/-! ## What an operation does -/

structure Effect (table : Table schema) (event : Event schema) : Prop where
  changes : event.table.changes =
    if event.isProcessed then .empty else table.changes.insertAll event.changed?.toList
  values : ∀ field, (∀ changed, event.changed? = some changed → ¬ schema.Shares changed field) →
    event.table.values field = event.put?.getD table.values field
  valid : event.table.valid = (event.put?.isSome || table.valid)
  updating : event.table.updating = event.opens?.getD table.updating

theorem effect_of_error {operation : Operation schema} {abort : Abort}
    (aborted : table.answer operation = .error abort)
    (notPut : (table.event operation).put? = none) :
    table.Effect (table.event operation) := by
  rw [event, perform, aborted]
  cases operation with
  | put values => cases notPut
  | _ => exact ⟨rfl, fun _ _ => rfl, rfl, rfl⟩

theorem effect (table : Table schema) (operation : Operation schema) :
    table.Effect (table.event operation) := by
  cases operation with
  | put values => exact ⟨rfl, fun _ _ => rfl, rfl, rfl⟩
  | update field value =>
    cases updated : table.update field value with
    | error abort => exact effect_of_error updated rfl
    | ok answered =>
      obtain ⟨changed, later⟩ := answered
      have done :
          table.event (.update field value) = ⟨.update field value, .ok changed, later⟩ := by
        rw [event, perform, answer, updated]
      rw [done]
      rcases update_cases updated with ⟨rfl, -, rfl⟩ | ⟨rfl, -, rfl⟩
      · exact ⟨rfl, fun _ _ => rfl, rfl, rfl⟩
      · refine ⟨rfl, fun other apart => ?_, rfl, rfl⟩
        exact Values.set_other _ _ _ (apart field rfl)
  | unbox field boxed =>
    cases unboxed : table.unbox field boxed with
    | error abort => exact effect_of_error unboxed rfl
    | ok answered =>
      obtain ⟨result, later⟩ := answered
      have done : table.event (.unbox field boxed) = ⟨.unbox field boxed, .ok result, later⟩ := by
        rw [event, perform, answer, unboxed]
      rw [done]
      rcases unbox_cases unboxed with ⟨refused, rfl⟩ | ⟨value, -, -, ⟨rfl, -, rfl⟩ | ⟨rfl, -, rfl⟩⟩
      · cases result with
        | updated => cases refused
        | _ => exact ⟨rfl, fun _ _ => rfl, rfl, rfl⟩
      · exact ⟨rfl, fun _ _ => rfl, rfl, rfl⟩
      · refine ⟨rfl, fun other apart => ?_, rfl, rfl⟩
        exact Values.set_other _ _ _ (apart field rfl)
  | changesProcessed =>
    rw [event, perform, answer, Table.changesProcessed]
    cases table.hasPending <;> exact ⟨rfl, fun _ _ => rfl, rfl, rfl⟩
  | beginUpdate =>
    rw [event, perform, answer, Table.beginUpdate]
    cases table.updating <;> exact ⟨rfl, fun _ _ => rfl, rfl, rfl⟩
  | endUpdate =>
    rw [event, perform, answer, Table.endUpdate]
    cases table.updating <;> exact ⟨rfl, fun _ _ => rfl, rfl, rfl⟩

/-! ## Histories -/

section

variable {initial : Values schema} {events : List (Event schema)} {last : Event schema}

theorem exists_mem_concat {holds : Event schema → Prop} :
    (∃ event ∈ events ++ [last], holds event) ↔ (∃ event ∈ events, holds event) ∨ holds last := by
  simp only [List.mem_append, List.mem_singleton, or_and_right, exists_or, exists_eq_left]

@[simp] theorem after_concat : after initial (events ++ [last]) = last.table := by
  simp [after]

theorem recent_concat_of_processed (processed : last.isProcessed = true) :
    recent (events ++ [last]) = [] :=
  List.rtakeWhile_concat_neg _ _ _ (by simp [processed])

theorem recent_concat (unprocessed : last.isProcessed = false) :
    recent (events ++ [last]) = recent events ++ [last] :=
  List.rtakeWhile_concat_pos _ _ _ (by simp [unprocessed])

theorem settled_concat_of_processed (processed : last.isProcessed = true) :
    settled initial (events ++ [last]) = last.table := by
  simp [settled, processed]

theorem settled_concat (unprocessed : last.isProcessed = false) :
    settled initial (events ++ [last]) = settled initial events := by
  simp [settled, unprocessed]

/-- What the fields that are not marked hold: what was put last since changes were processed or,
if nothing was, what was there at that time. -/
def base (initial : Values schema) (events : List (Event schema)) : Values schema :=
  ((recent events).filterMap Event.put?).getLast?.getD (settled initial events).values

theorem base_concat_of_processed (processed : last.isProcessed = true) :
    base initial (events ++ [last]) = last.table.values := by
  rw [base, recent_concat_of_processed processed, settled_concat_of_processed processed]
  rfl

theorem base_concat (unprocessed : last.isProcessed = false) :
    base initial (events ++ [last]) = last.put?.getD (base initial events) := by
  rw [base, recent_concat unprocessed, settled_concat unprocessed, List.filterMap_append]
  cases put : last.put? with
  | none => simp [put, base]
  | some values => simp [put]

end

structure Tracks (initial : Values schema) (events : List (Event schema)) : Prop where
  bounded : (after initial events).changes.Bounded
  marks : ∀ field, (after initial events).changes.contains field = true ↔
    ∃ event ∈ recent events, event.changed? = some field
  values : ∀ field,
    (∀ other, schema.Shares other field → (after initial events).changes.contains other = false) →
    (after initial events).values field = base initial events field
  valid : (after initial events).valid = true ↔ ∃ event ∈ events, event.put?.isSome = true
  updating : (after initial events).updating = (events.filterMap Event.opens?).getLast?.getD false

theorem tracks_nil (initial : Values schema) : Tracks initial [] where
  bounded := ChangeSet.bounded_empty
  marks field := by simp [after, new, recent]
  values field _ := rfl
  valid := by simp [after, new]
  updating := rfl

section

variable {initial : Values schema} {events : List (Event schema)} {last : Event schema}

theorem Tracks.valid_concat (tracks : Tracks initial events)
    (effect : (after initial events).Effect last) :
    last.table.valid = true ↔ ∃ event ∈ events ++ [last], event.put?.isSome = true := by
  rw [effect.valid, Bool.or_eq_true, tracks.valid, exists_mem_concat]
  exact or_comm

theorem Tracks.updating_concat (tracks : Tracks initial events)
    (effect : (after initial events).Effect last) :
    last.table.updating = ((events ++ [last]).filterMap Event.opens?).getLast?.getD false := by
  rw [effect.updating, tracks.updating, List.filterMap_append]
  cases opens : last.opens? with
  | none => simp [opens]
  | some isOpen => simp [opens]

theorem Tracks.concat (tracks : Tracks initial events)
    (effect : (after initial events).Effect last) : Tracks initial (events ++ [last]) := by
  have valid := tracks.valid_concat effect
  have updating := tracks.updating_concat effect
  have changes := effect.changes
  cases processed : last.isProcessed with
  | true =>
    rw [processed, if_pos rfl] at changes
    refine ⟨?_, fun field => ?_, fun field _ => ?_, ?_, ?_⟩ <;> rw [after_concat]
    · rw [changes]
      exact ChangeSet.bounded_empty
    · rw [changes, ChangeSet.contains_empty, recent_concat_of_processed processed]
      simp
    · rw [base_concat_of_processed processed]
    · exact valid
    · exact updating
  | false =>
    rw [processed, if_neg (by decide)] at changes
    have marked (field : schema.Field) : last.table.changes.contains field = true ↔
        last.changed? = some field ∨ (after initial events).changes.contains field = true := by
      rw [changes, ChangeSet.contains_insertAll, Bool.or_eq_true, List.contains_iff_mem,
        Option.mem_toList]
    refine ⟨?_, fun field => ?_, fun field unmarked => ?_, ?_, ?_⟩ <;> rw [after_concat]
    · rw [changes]
      exact tracks.bounded.insertAll _
    · rw [marked, tracks.marks, recent_concat processed, exists_mem_concat]
      exact or_comm
    · -- What is unmarked now was unmarked before, and this event did not change it.
      simp only [after_concat, ← Bool.not_eq_true, marked, not_or] at unmarked
      have kept : ∀ changed, last.changed? = some changed → ¬ schema.Shares changed field :=
        fun changed marks shares => (unmarked changed shares).1 marks
      rw [effect.values field kept, base_concat processed]
      cases last.put? with
      | none =>
        exact tracks.values field fun other shares => Bool.eq_false_iff.2 (unmarked other shares).2
      | some values => rfl
    · exact valid
    · exact updating

end

theorem history_concat (initial : Values schema) (operations : List (Operation schema))
    (operation : Operation schema) :
    history initial (operations ++ [operation]) = history initial operations ++
      [(after initial (history initial operations)).event operation] :=
  List.foldl_concat _ _ _ _

theorem tracks_history (initial : Values schema) (operations : List (Operation schema)) :
    Tracks initial (history initial operations) := by
  induction operations using List.reverseRecOn with
  | nil => exact tracks_nil initial
  | append_singleton operations operation ih =>
    rw [history_concat]
    exact ih.concat (effect _ operation)

theorem operations_history (initial : Values schema) (operations : List (Operation schema)) :
    (history initial operations).map Event.operation = operations := by
  induction operations using List.reverseRecOn with
  | nil => rfl
  | append_singleton operations operation ih =>
    rw [history_concat, List.map_append, ih]
    rfl

theorem isSome_put?_iff {event : Event schema} :
    event.put?.isSome = true ↔ ∃ values, event.operation = .put values := by
  obtain ⟨operation, reply, table⟩ := event
  cases operation <;> simp [Event.put?]

/-- Whatever is done to a table, its marks are on the fields of which some update or boxed write
was answered with a change since the changes were last processed, and any field whose member is
that of no marked field holds what it held at that time, or what was put last since. It is valid
exactly if values were put into it, and an operation is aborted exactly if it is refused. One that
is aborted leaves the table as it was, also if the table is changed in place. -/
theorem history_exact (initial : Values schema) (operations : List (Operation schema)) :
    let events := history initial operations
    let table := after initial events
    events.map Event.operation = operations ∧
    (∀ field, table.changes.contains field = true ↔
      ∃ event ∈ recent events, event.changed? = some field) ∧
    (∀ field, (∀ other, schema.Shares other field → table.changes.contains other = false) →
      table.values field = base initial events field) ∧
    (table.valid = true ↔ ∃ values, .put values ∈ operations) ∧
    (table.updating = true ↔ (events.filterMap Event.opens?).getLast? = some true) ∧
    ∀ operation,
      ((∃ abort, (table.perform operation).1 = .error abort) ↔ operation.Refused table) ∧
      (∀ abort, (table.perform operation).1 = .error abort →
        (table.perform operation).2 = table) ∧
      InPlace.outcome (inPlace operation) table = table.perform operation := by
  intro events table
  have tracks : Tracks initial events := tracks_history initial operations
  have performed : events.map Event.operation = operations := operations_history initial operations
  refine ⟨performed, tracks.marks, tracks.values, ?_, ?_, fun operation =>
    ⟨refused_iff tracks.bounded operation, fun _ aborted => perform_of_error aborted,
      outcome_inPlace table operation⟩⟩
  · rw [tracks.valid, ← performed]
    simp only [isSome_put?_iff, List.mem_map]
    exact ⟨fun ⟨event, member, values, same⟩ => ⟨values, event, member, same⟩,
      fun ⟨values, event, member, same⟩ => ⟨event, member, values, same⟩⟩
  · rw [tracks.updating]
    cases (events.filterMap Event.opens?).getLast? <;> simp

end Table

end IniSettings
