import IniSettings.Storage.Contents
import IniSettings.Storage.Script

/-!
# Files in memory

A map from paths to contents that answers calls, and that can be made to fail in each way in which
a disk can: when a file is opened, after some bytes of it, at the flush, when it is moved and when
it is removed. A file knows from its opening how it will fail.
-/

namespace IniSettings

/-- What fails besides `failAfter` and `denyCreates`. -/
structure Faults where
  read : Bool := false
  rename : Bool := false
  remove : Bool := false
  /-- A file that is to be removed turns out to be removed already. -/
  gone : Bool := false
  flush : Bool := false
  /-- Writers take none of the bytes that they are given. -/
  zero : Bool := false
deriving DecidableEq, Repr

structure OpenFile where
  place : List Path.Component
  budget : Option Nat
  flushFails : Bool
  takesNothing : Bool
deriving DecidableEq, Repr

structure Memory where
  files : List (List Path.Component × Contents)
  failAfter : Option Nat
  denyCreates : Bool
  creates : Nat
  removes : Nat
  faults : Faults
  writing : Option OpenFile
deriving DecidableEq, Repr

namespace Memory

def empty : Memory :=
  ⟨[], none, false, 0, 0, {}, none⟩

/-! ## The map -/

def contents? (memory : Memory) (path : Path) : Option Bytes :=
  (memory.files.lookup path.components).map Contents.bytes

def putFile (place : List Path.Component) (contents : Contents) :
    List (List Path.Component × Contents) → List (List Path.Component × Contents)
  | [] => [(place, contents)]
  | (other, old) :: rest =>
    if other = place then (place, contents) :: rest else (other, old) :: putFile place contents rest

def put (memory : Memory) (place : List Path.Component) (contents : Contents) : Memory :=
  { memory with files := putFile place contents memory.files }

def insert (memory : Memory) (path : Path) (bytes : Bytes) : Memory :=
  memory.put path.components (.ofBytes bytes)

def erase (memory : Memory) (path : Path) : Memory :=
  { memory with files := memory.files.filter fun file => file.1 != path.components }

/-! ## Failures -/

def failWritesAfter (memory : Memory) (count : Nat) : Memory :=
  { memory with failAfter := some count }

def denyAllCreates (memory : Memory) : Memory :=
  { memory with denyCreates := true }

def stopFailing (memory : Memory) : Memory :=
  { memory with failAfter := none, denyCreates := false }

/-! ## Calls -/

def read (memory : Memory) (path : Path) : Except IoError Bytes :=
  if memory.faults.read then .error .readDenied
  else
    match memory.contents? path with
    | some bytes => .ok bytes
    | none => .error .absent

def create (memory : Memory) (path : Path) : Except IoError Unit × Memory :=
  let memory := { memory with creates := memory.creates + 1 }
  if memory.denyCreates then (.error .createDenied, memory)
  else
    let place := path.components
    (.ok (), { memory.put place .empty with
      writing := some ⟨place, memory.failAfter, memory.faults.flush, memory.faults.zero⟩ })

/-- How many of `offered` bytes an open file takes. -/
def OpenFile.accept (file : OpenFile) (offered : Nat) : Except IoError Nat :=
  if file.takesNothing then .ok 0
  else
    match file.budget with
    | none => .ok offered
    | some 0 => .error .writeRefused
    | some left => .ok (min offered left)

def write (memory : Memory) (bytes : Bytes) : Except IoError Nat × Memory :=
  match memory.writing with
  | none => (.error .notOpen, memory)
  | some file =>
    match OpenFile.accept file bytes.length with
    | .error error => (.error error, memory)
    | .ok count =>
      let old := (memory.files.lookup file.place).getD .empty
      let budget := file.budget.map fun left => left - count
      (.ok count, { memory.put file.place (old.append (bytes.take count)) with
        writing := some { file with budget } })

def flush (memory : Memory) : Except IoError Unit :=
  match memory.writing with
  | none => .error .notOpen
  | some file => if file.flushFails then .error .flushFailed else .ok ()

def remove (memory : Memory) (path : Path) : Except IoError Unit × Memory :=
  if memory.faults.gone then (.error .gone, memory)
  else if memory.faults.remove then (.error .removeDenied, memory)
  else
    match memory.contents? path with
    | none => (.error .absent, memory)
    | some _ => (.ok (), { memory.erase path with removes := memory.removes + 1 })

def rename (memory : Memory) (source target : Path) : Except IoError Unit × Memory :=
  if memory.faults.rename then (.error .renameDenied, memory)
  else
    match memory.contents? source with
    | none => (.error .absent, memory)
    | some bytes => (.ok (), (memory.erase source).insert target bytes)

instance : Backend Memory where
  answer
    | .read path, memory => (memory.read path, memory)
    | .create path, memory => memory.create path
    | .write bytes, memory => memory.write bytes
    | .flush, memory => (memory.flush, memory)
    | .close, memory => ((), { memory with writing := none })
    | .remove path, memory => memory.remove path
    | .rename source target, memory => memory.rename source target

end Memory

end IniSettings
