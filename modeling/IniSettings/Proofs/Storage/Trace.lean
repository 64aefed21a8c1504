import IniSettings.Storage.Script

/-!
# Traces of scripts

What a script may ask for and report, whatever the replies are, bounds the trace of each of its
runs. An attempt to store is a call that opens a file.
-/

namespace IniSettings

def Call.isCreate : Call → Bool
  | .create _ => true
  | _ => false

def Occurrence.Silent : Occurrence → Prop
  | .reported (.notified _) => False
  | _ => True

namespace Run

variable {σ α : Type}

def attempts (run : Run σ α) : Nat :=
  run.calls.countP Call.isCreate

end Run

namespace Script

variable {α β σ : Type} [Backend σ] {allowed : Occurrence → Prop}

/-- Whatever the replies are, only what is allowed occurs. -/
def Only (allowed : Occurrence → Prop) : Script α → Prop
  | done _ => True
  | call request next => allowed (.called request) ∧ ∀ reply, (next reply).Only allowed
  | report event next => allowed (.reported event) ∧ next.Only allowed

theorem Only.imp {may : Occurrence → Prop} {script : Script α} (only : script.Only allowed)
    (weaken : ∀ occurrence, allowed occurrence → may occurrence) : script.Only may := by
  induction script with
  | done value => trivial
  | call request resume ih => exact ⟨weaken _ only.1, fun reply => ih reply (only.2 reply)⟩
  | report event rest ih => exact ⟨weaken _ only.1, ih only.2⟩

theorem only_pure (value : α) : (pure value : Script α).Only allowed := trivial

theorem Only.bind {script : Script α} {next : α → Script β} (first : script.Only allowed)
    (second : ∀ value, (next value).Only allowed) : (script >>= next).Only allowed := by
  change (script.bind next).Only allowed
  induction script with
  | done value => exact second value
  | call request resume ih => exact ⟨first.1, fun reply => ih reply (first.2 reply)⟩
  | report event rest ih => exact ⟨first.1, ih first.2⟩

theorem only_ask {request : Call} (may : allowed (.called request)) :
    (ask request).Only allowed :=
  ⟨may, fun _ => trivial⟩

theorem only_log {entry : LogEntry} (may : allowed (.reported (.logged entry))) :
    (log entry).Only allowed :=
  ⟨may, trivial⟩

theorem Only.trace {script : Script α} (only : script.Only allowed) (store : σ) :
    ∀ occurrence ∈ (script.run store).trace, allowed occurrence := by
  induction script generalizing store with
  | done value =>
    intro occurrence member
    exact absurd member List.not_mem_nil
  | call request resume ih =>
    intro occurrence member
    rcases List.mem_cons.1 member with rfl | later
    · exact only.1
    · exact ih _ (only.2 _) _ occurrence later
  | report event rest ih =>
    intro occurrence member
    rcases List.mem_cons.1 member with rfl | later
    · exact only.1
    · exact ih only.2 store occurrence later

theorem Only.calls {script : Script α} (only : script.Only allowed) (store : σ) :
    ∀ request ∈ (script.run store).calls, allowed (.called request) := by
  intro request member
  obtain ⟨occurrence, there, shown⟩ := List.mem_filterMap.1 member
  have may := only.trace store occurrence there
  cases occurrence with
  | called other =>
    obtain rfl : other = request := Option.some.inj shown
    exact may
  | reported event => cases shown

theorem calls_bind (script : Script α) (next : α → Script β) (store : σ) :
    ((script >>= next).run store).calls = (script.run store).calls ++
      ((next (script.run store).value).run (script.run store).store).calls := by
  rw [run_bind]
  exact List.filterMap_append

theorem attempts_call (request : Call) (next : request.Reply → Script α) (store : σ) :
    ((call request next).run store).attempts = (if request.isCreate then 1 else 0) +
      ((next (Backend.answer request store).1).run (Backend.answer request store).2).attempts := by
  show List.countP Call.isCreate (request :: _) = _
  rw [List.countP_cons, Nat.add_comm]
  rfl

theorem attempts_bind (script : Script α) (next : α → Script β) (store : σ) :
    ((script >>= next).run store).attempts = (script.run store).attempts +
      ((next (script.run store).value).run (script.run store).store).attempts := by
  rw [Run.attempts, calls_bind, List.countP_append]
  rfl

theorem Only.attempts {script : Script α} (only : script.Only allowed)
    (never : ∀ path, ¬ allowed (.called (.create path))) (store : σ) :
    (script.run store).attempts = 0 := by
  refine List.countP_eq_zero.2 fun request member opens => ?_
  have may := only.calls store request member
  cases request with
  | create path => exact never path may
  | _ => cases opens

theorem Only.notifications {script : Script α} (silent : script.Only Occurrence.Silent)
    (store : σ) : (script.run store).notifications = [] := by
  refine List.filterMap_eq_nil_iff.2 fun occurrence member => ?_
  have may := silent.trace store occurrence member
  match occurrence with
  | .called _ => rfl
  | .reported (.logged _) => rfl
  | .reported (.notified _) => exact absurd may id

end Script

end IniSettings
