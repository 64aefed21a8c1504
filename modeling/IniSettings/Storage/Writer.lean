import IniSettings.Storage.Script

/-!
# Writers with short writes

A place for bytes that takes them as it likes: of those that it is offered any number from one on,
until it is full, and none after that. How many it takes, and how it refuses more, may depend on
all that it remembers of the calls so far. It holds no files.
-/

namespace IniSettings

/-- What a writer would take of the bytes it is offered, and its refusal once it is full. -/
structure Habit (ι : Type) where
  accept : ι → Bytes → Nat × ι
  refusal : ι → IoError

structure Writer {ι : Type} (habit : Habit ι) where
  delivered : Bytes
  /-- How many more bytes it takes, if there is a limit. -/
  room : Option Nat
  remembered : ι

namespace Writer

variable {ι : Type} {habit : Habit ι}

def limited (habit : Habit ι) (room : Nat) (remembered : ι) : Writer habit :=
  ⟨[], some room, remembered⟩

def unlimited (habit : Habit ι) (remembered : ι) : Writer habit :=
  ⟨[], none, remembered⟩

/-- The bytes there is room for. -/
def fitting (writer : Writer habit) (bytes : Bytes) : Bytes :=
  match writer.room with
  | none => bytes
  | some left => bytes.take left

/-- Takes what it would like to, but at least one byte and no more than it has room for. -/
def write (writer : Writer habit) (offered : Bytes) : Except IoError Nat × Writer habit :=
  if writer.room = some 0 then (.error (habit.refusal writer.remembered), writer)
  else
    let (wanted, remembered) := habit.accept writer.remembered offered
    let count := min (max 1 wanted) (writer.fitting offered).length
    (.ok count,
      { delivered := writer.delivered ++ offered.take count
        room := writer.room.map fun left => left - count
        remembered })

instance : Backend (Writer habit) where
  answer
    | .read _, writer => (.error .absent, writer)
    | .create _, writer => (.error .createDenied, writer)
    | .write offered, writer => writer.write offered
    | .flush, writer => (.ok (), writer)
    | .close, writer => ((), writer)
    | .remove _, writer => (.error .absent, writer)
    | .rename _ _, writer => (.error .absent, writer)

end Writer

end IniSettings
