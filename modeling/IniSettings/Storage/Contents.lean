import IniSettings.Text.Utf8

/-!
# Contents of files

The bytes of a file as it grows by pieces. A piece goes to the end in one step, whatever is there
already.
-/

namespace IniSettings

/-- The pieces of a file, the last one first. -/
structure Contents where
  pieces : List Bytes
deriving DecidableEq, Repr

namespace Contents

def empty : Contents :=
  ⟨[]⟩

def ofBytes (bytes : Bytes) : Contents :=
  ⟨[bytes]⟩

def append (contents : Contents) (piece : Bytes) : Contents :=
  ⟨piece :: contents.pieces⟩

def bytes (contents : Contents) : Bytes :=
  contents.pieces.reverse.flatten

@[simp] theorem bytes_ofBytes (bytes : Bytes) : (ofBytes bytes).bytes = bytes := by
  simp [Contents.bytes, ofBytes]

@[simp] theorem bytes_append (contents : Contents) (piece : Bytes) :
    (contents.append piece).bytes = contents.bytes ++ piece := by
  simp [bytes, append]

end Contents

end IniSettings
