import IniSettings.Storage.Contents
import IniSettings.Storage.Script

/-!
# A buffer of fixed size

A place for one text that takes the bytes that fit and no more. It can be written to like an open
file and holds no files.
-/

namespace IniSettings

structure Buffer where
  written : Contents
  room : Nat
deriving DecidableEq, Repr

namespace Buffer

def ofSize (size : Nat) : Buffer :=
  ⟨.empty, size⟩

def write (buffer : Buffer) (bytes : Bytes) : Nat × Buffer :=
  let count := min bytes.length buffer.room
  (count, ⟨buffer.written.append (bytes.take count), buffer.room - count⟩)

/-- All bytes of the buffer, those that were not written as `filler`. -/
def contents (buffer : Buffer) (filler : UInt8) : Bytes :=
  buffer.written.bytes ++ List.replicate buffer.room filler

instance : Backend Buffer where
  answer
    | .read _, buffer => (.error .absent, buffer)
    | .create _, buffer => (.error .createDenied, buffer)
    | .write bytes, buffer =>
      let (count, buffer) := buffer.write bytes
      (.ok count, buffer)
    | .flush, buffer => (.ok (), buffer)
    | .close, buffer => ((), buffer)
    | .remove _, buffer => (.error .absent, buffer)
    | .rename _ _, buffer => (.error .absent, buffer)

end Buffer

end IniSettings
