/-!
# Text as bytes

`encode` writes a text as UTF-8. `decode` reads any bytes: where they are not UTF-8, each longest
run that could have begun a character becomes one replacement character, and reading goes on
with the byte that broke the run.
-/

namespace IniSettings

abbrev Bytes := List UInt8

namespace Text.Utf8

/-- The bytes of one character: one for ASCII, else a leading byte and one to three more that
carry six bits each. -/
def encodeChar (c : Char) : Bytes :=
  let value := c.toNat
  if value < 0x80 then
    [UInt8.ofNat value]
  else if value < 0x800 then
    [UInt8.ofNat (0xC0 + value / 0x40), UInt8.ofNat (0x80 + value % 0x40)]
  else if value < 0x10000 then
    [UInt8.ofNat (0xE0 + value / 0x1000), UInt8.ofNat (0x80 + value / 0x40 % 0x40),
      UInt8.ofNat (0x80 + value % 0x40)]
  else
    [UInt8.ofNat (0xF0 + value / 0x40000), UInt8.ofNat (0x80 + value / 0x1000 % 0x40),
      UInt8.ofNat (0x80 + value / 0x40 % 0x40), UInt8.ofNat (0x80 + value % 0x40)]

def encodeChars (chars : List Char) : Bytes :=
  chars.flatMap encodeChar

def encode (text : String) : Bytes :=
  encodeChars text.toList

def replacement : Char := Char.ofNat 0xFFFD

/-- A character of which some bytes are read: `owed` more are needed, the next of them lies
between `low` and `high`, and `value` holds the bits so far. -/
structure Pending where
  owed : Nat
  low : Nat
  high : Nat
  value : Nat
deriving DecidableEq, Repr

inductive Opening where
  | whole (c : Char)
  | pending (sequence : Pending)
  | invalid
deriving DecidableEq, Repr

/-- The second byte has a smaller range after `E0`, `ED`, `F0` and `F4`: that excludes texts
longer than needed, surrogates, and values past the last character. -/
def opening (byte : Nat) : Opening :=
  if byte < 0x80 then .whole (Char.ofNat byte)
  else if byte < 0xC2 then .invalid
  else if byte < 0xE0 then .pending ⟨1, 0x80, 0xBF, byte - 0xC0⟩
  else if byte = 0xE0 then .pending ⟨2, 0xA0, 0xBF, 0⟩
  else if byte = 0xED then .pending ⟨2, 0x80, 0x9F, 0xD⟩
  else if byte < 0xF0 then .pending ⟨2, 0x80, 0xBF, byte - 0xE0⟩
  else if byte = 0xF0 then .pending ⟨3, 0x90, 0xBF, 0⟩
  else if byte < 0xF4 then .pending ⟨3, 0x80, 0xBF, byte - 0xF0⟩
  else if byte = 0xF4 then .pending ⟨3, 0x80, 0x8F, 4⟩
  else .invalid

/-- The sequence after one more of its bytes: the character it names, or a longer sequence. -/
def Pending.extend (sequence : Pending) (byte : Nat) : Opening :=
  let value := sequence.value * 0x40 + (byte - 0x80)
  if sequence.owed ≤ 1 then .whole (Char.ofNat value)
  else .pending ⟨sequence.owed - 1, 0x80, 0xBF, value⟩

/-- Reads on from where a sequence may be open. A sequence that the next byte cannot continue
is replaced, and that byte begins anew. -/
def decodeFrom : Option Pending → Bytes → List Char
  | none, [] => []
  | some _, [] => [replacement]
  | none, byte :: rest =>
    match opening byte.toNat with
    | .whole c => c :: decodeFrom none rest
    | .pending sequence => decodeFrom (some sequence) rest
    | .invalid => replacement :: decodeFrom none rest
  | some sequence, byte :: rest =>
    if sequence.low ≤ byte.toNat ∧ byte.toNat ≤ sequence.high then
      match sequence.extend byte.toNat with
      | .whole c => c :: decodeFrom none rest
      | .pending longer => decodeFrom (some longer) rest
      | .invalid => replacement :: decodeFrom none rest
    else
      match opening byte.toNat with
      | .whole c => replacement :: c :: decodeFrom none rest
      | .pending fresh => replacement :: decodeFrom (some fresh) rest
      | .invalid => replacement :: replacement :: decodeFrom none rest

def decodeChars (bytes : Bytes) : List Char :=
  decodeFrom none bytes

def decode (bytes : Bytes) : String :=
  String.ofList (decodeChars bytes)

end Text.Utf8

end IniSettings
