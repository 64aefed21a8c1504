import IniSettings.Storage.Script

/-!
# Runs of scripts, call by call

A run goes through the stores before and after each of its calls. What holds of all of them and of
the end is proved along the script: a law for each way to build one.
-/

namespace IniSettings

def LogEntry.occurrence (entry : LogEntry) : Occurrence :=
  .reported (.logged entry)

namespace Script

variable {α β σ : Type} [Backend σ]

/-- The stores that a run goes through, from the one it starts from to the one it ends in. -/
def states : Script α → σ → List σ
  | done _, store => [store]
  | call request next, store =>
    let (reply, later) := Backend.answer request store
    store :: (next reply).states later
  | report _ next, store => next.states store

theorem mem_states_end (script : Script α) (store : σ) :
    (script.run store).store ∈ script.states store := by
  induction script generalizing store with
  | done value => exact List.mem_singleton_self store
  | call request resume ih => exact List.mem_cons_of_mem _ (ih _ _)
  | report event rest ih => exact ih store

theorem mem_states_bind {script : Script α} {next : α → Script β} {store state : σ}
    (member : state ∈ (script >>= next).states store) :
    state ∈ script.states store ∨
      state ∈ (next (script.run store).value).states (script.run store).store := by
  change state ∈ (script.bind next).states store at member
  induction script generalizing store with
  | done value => exact .inr member
  | call request resume ih =>
    rcases List.mem_cons.1 member with rfl | later
    · exact .inl List.mem_cons_self
    · exact (ih _ later).imp_left (List.mem_cons_of_mem _)
  | report event rest ih => exact ih member

/-- From that store, `between` holds of every store on the way, and `after` of the answer and the
store in the end. -/
structure Ensures (script : Script α) (store : σ) (between : σ → Prop)
    (after : α → σ → Prop) : Prop where
  between : ∀ state ∈ script.states store, between state
  after : after (script.run store).value (script.run store).store

variable {script : Script α} {store : σ} {between : σ → Prop} {after : α → σ → Prop}

theorem ensures_pure {value : α} (here : between store) (result : after value store) :
    (pure value : Script α).Ensures store between after := by
  refine ⟨fun state member => ?_, result⟩
  obtain rfl := List.mem_singleton.1 member
  exact here

theorem ensures_log_bind {entry : LogEntry} {next : Unit → Script α}
    (rest : (next ()).Ensures store between after) :
    (log entry >>= next).Ensures store between after :=
  ⟨rest.between, rest.after⟩

theorem ensures_log {entry : LogEntry} {after : Unit → σ → Prop} (here : between store)
    (result : after () store) : (log entry).Ensures store between after :=
  ensures_log_bind (ensures_pure here result)

theorem ensures_ask_bind {request : Call} {next : request.Reply → Script α}
    (here : between store)
    (rest : (next (Backend.answer request store).1).Ensures (Backend.answer request store).2
      between after) :
    (ask request >>= next).Ensures store between after := by
  refine ⟨fun state member => ?_, rest.after⟩
  rcases List.mem_cons.1 member with rfl | later
  · exact here
  · exact rest.between state later

theorem ensures_ask {request : Call} {after : request.Reply → σ → Prop} (here : between store)
    (there : between (Backend.answer request store).2)
    (result : after (Backend.answer request store).1 (Backend.answer request store).2) :
    (ask request).Ensures store between after :=
  ensures_ask_bind here (ensures_pure there result)

theorem Ensures.bind {next : α → Script β} {result : β → σ → Prop}
    (first : script.Ensures store between after)
    (second : ∀ value later, between later → after value later →
      (next value).Ensures later between result) :
    (script >>= next).Ensures store between result := by
  have rest := second _ _ (first.between _ (mem_states_end script store)) first.after
  refine ⟨fun state member => ?_, ?_⟩
  · rcases mem_states_bind member with early | late
    · exact first.between state early
    · exact rest.between state late
  · rw [run_bind]
    exact rest.after

theorem Ensures.imp {between' : σ → Prop} {after' : α → σ → Prop}
    (ensured : script.Ensures store between after)
    (weakenBetween : ∀ state, between state → between' state)
    (weakenAfter : ∀ value later, between later → after value later → after' value later) :
    script.Ensures store between' after' :=
  ⟨fun state member => weakenBetween state (ensured.between state member),
    weakenAfter _ _ (ensured.between _ (mem_states_end script store)) ensured.after⟩

inductive Logs : Script α → List LogEntry → α → Prop where
  | done (value : α) : Logs (done value) [] value
  | log {entry : LogEntry} {entries : List LogEntry} {rest : Script α} {value : α}
      (logs : rest.Logs entries value) : Logs (report (.logged entry) rest) (entry :: entries) value

variable {entries more : List LogEntry} {value : α}

theorem Logs.bind {next : α → Script β} {result : β} (first : script.Logs entries value)
    (second : (next value).Logs more result) :
    (script >>= next).Logs (entries ++ more) result := by
  induction first with
  | done value => exact second
  | log _ ih => exact .log (ih second)

theorem Logs.run (logs : script.Logs entries value) (store : σ) :
    script.run store = ⟨value, store, entries.map LogEntry.occurrence⟩ := by
  induction logs with
  | done value => rfl
  | log _ ih =>
    rw [Script.run, ih]
    rfl

theorem Logs.ensures (logs : script.Logs entries value) (store : σ) :
    script.Ensures store (· = store) fun result later => result = value ∧ later = store := by
  induction logs with
  | done value => exact ensures_pure rfl ⟨rfl, rfl⟩
  | log _ ih => exact ⟨ih.between, ih.after⟩

theorem logs_forM {α : Type} (entry : α → LogEntry) (list : List α) :
    (list.forM fun item => log (entry item)).Logs (list.map entry) () := by
  induction list with
  | nil => exact .done ()
  | cons item rest ih => exact .log ih

end Script

theorem Run.shown_of_trace {σ α : Type} {run : Run σ α} {request : Call} {entries : List LogEntry}
    (trace : run.trace = .called request :: entries.map LogEntry.occurrence) :
    run.calls = [request] ∧ run.notifications = [] ∧ run.entries = entries := by
  simp [calls, notifications, Run.entries, trace, List.filterMap_map, Function.comp_def,
    LogEntry.occurrence]

end IniSettings
