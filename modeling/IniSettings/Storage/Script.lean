import IniSettings.Log
import IniSettings.Text.Utf8

/-!
# Scripts

All that this library does to files it asks for by calls, and a script says which calls follow
which replies. A script tells its surroundings of two kinds of events, entries for the log and
notifications of observers. It can be run against any backend that answers calls; the run keeps
the trace of calls and events in their order. One file at a time is open for writing.
-/

namespace IniSettings

inductive Call where
  | read (path : Path)
  /-- Opens a new or emptied file for writing. -/
  | create (path : Path)
  /-- Offers bytes to the open file. The reply is how many it took. -/
  | write (bytes : Bytes)
  | flush
  | close
  | remove (path : Path)
  | rename (source target : Path)
deriving DecidableEq, Repr

abbrev Call.Reply : Call → Type
  | .read _ => Except IoError Bytes
  | .write _ => Except IoError Nat
  | .close => Unit
  | _ => Except IoError Unit

/-- An observer was told which fields changed. Fields are named by their places. -/
structure Notification where
  observer : String
  origin : Origin
  changed : List Nat
deriving DecidableEq, Repr

inductive Event where
  | logged (entry : LogEntry)
  | notified (notification : Notification)
deriving DecidableEq, Repr

inductive Script (α : Type) where
  | done (value : α)
  | call (request : Call) (next : request.Reply → Script α)
  | report (event : Event) (next : Script α)

namespace Script

variable {α β σ : Type}

def bind : Script α → (α → Script β) → Script β
  | done value, next => next value
  | call request resume, next => call request fun reply => (resume reply).bind next
  | report event rest, next => report event (rest.bind next)

instance : Monad Script where
  pure := done
  bind := bind

def ask (request : Call) : Script request.Reply :=
  call request done

def log (entry : LogEntry) : Script Unit :=
  report (.logged entry) (done ())

def notify (notification : Notification) : Script Unit :=
  report (.notified notification) (done ())

end Script

/-- Files, in the widest sense: whatever answers calls. -/
class Backend (σ : Type) where
  answer : (request : Call) → σ → request.Reply × σ

inductive Occurrence where
  | called (request : Call)
  | reported (event : Event)
deriving DecidableEq, Repr

structure Run (σ α : Type) where
  value : α
  store : σ
  trace : List Occurrence

namespace Script

variable {α β σ : Type} [Backend σ]

def run : Script α → σ → Run σ α
  | done value, store => ⟨value, store, []⟩
  | call request next, store =>
    let (reply, store) := Backend.answer request store
    let rest := (next reply).run store
    { rest with trace := .called request :: rest.trace }
  | report event next, store =>
    let rest := next.run store
    { rest with trace := .reported event :: rest.trace }

end Script

namespace Run

variable {σ α : Type}

def entries (run : Run σ α) : List LogEntry :=
  run.trace.filterMap fun
    | .reported (.logged entry) => some entry
    | _ => none

def notifications (run : Run σ α) : List Notification :=
  run.trace.filterMap fun
    | .reported (.notified notification) => some notification
    | _ => none

def calls (run : Run σ α) : List Call :=
  run.trace.filterMap fun
    | .called request => some request
    | _ => none

end Run

namespace Script

variable {α β σ : Type} [Backend σ]

@[simp] theorem run_pure (value : α) (store : σ) :
    (pure value : Script α).run store = ⟨value, store, []⟩ := rfl

/-- The second script goes on where the first one ended. -/
theorem run_bind (script : Script α) (next : α → Script β) (store : σ) :
    (script >>= next).run store =
      let first := script.run store
      let second := (next first.value).run first.store
      { second with trace := first.trace ++ second.trace } := by
  show (script.bind next).run store = _
  induction script generalizing store with
  | done value => simp [Script.bind, run]
  | call request resume ih => simp [Script.bind, run, ih]
  | report event rest ih => simp [Script.bind, run, ih]

end Script

end IniSettings
