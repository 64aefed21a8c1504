import IniSettings.Document.Render
import IniSettings.Storage.Script

/-!
# Saving a document

A document is written to its file piece by piece, either over the old contents or to a temporary
file that is then moved into place. A file that could not be written to its end is removed again.
-/

namespace IniSettings

inductive WriteMode where
  | truncate
  /-- A temporary file is written and moved over the file. -/
  | replace
deriving DecidableEq, Repr

def WriteMode.name : WriteMode → String
  | .truncate => "Truncate"
  | .replace => "Replace"

namespace Saving

/-- Offers the bytes until all are taken. Each call but the last one that fails takes at least one
byte, so their number is fuel enough. -/
def writeAll : (fuel : Nat) → Bytes → Script (Except IoError Unit)
  | _, [] => return .ok ()
  | 0, _ => return .error .writeZero
  | fuel + 1, bytes => do
    match ← Script.ask (.write bytes) with
    | .error error => return .error error
    | .ok 0 => return .error .writeZero
    | .ok count => writeAll fuel (bytes.drop count)

def writePiece (piece : String) : Script (Except IoError Unit) :=
  let bytes := Text.Utf8.encode piece
  writeAll bytes.length bytes

def writePieces : List String → Script (Except IoError Unit)
  | [] => return .ok ()
  | piece :: rest => do
    match ← writePiece piece with
    | .error error => return .error error
    | .ok () => writePieces rest

def stream (document : Document) : Script (Except IoError Unit) :=
  writePieces document.pieces

def streamAndFlush (document : Document) : Script (Except IoError Unit) := do
  match ← stream document with
  | .error error => return .error error
  | .ok () => Script.ask .flush

/-- Removes a file as well as can be. A file that is not there needs no removal. -/
def discard (path : Path) : Script Unit := do
  match ← Script.ask (.remove path) with
  | .ok () => return ()
  | .error error =>
    if error.kind = .notFound then return () else Script.log (.removeFailed path error)

def failWrite (path : Path) (error : IoError) : Script (Except ConfigError Unit) := do
  Script.log (.writeFailed path error)
  return .error (.write path error)

/-- Writes a document to a file. If the file could not be opened nothing is removed. -/
def writeFile (document : Document) (path : Path) : Script (Except ConfigError Unit) := do
  match ← Script.ask (.create path) with
  | .error error => failWrite path error
  | .ok () =>
    let written ← streamAndFlush document
    Script.ask .close
    match written with
    | .error error =>
      discard path
      failWrite path error
    | .ok () =>
      Script.log (.written path document.size)
      return .ok ()

def moveIntoPlace (temporary path : Path) : Script (Except ConfigError Unit) := do
  match ← Script.ask (.rename temporary path) with
  | .ok () => return .ok ()
  | .error error =>
    Script.log (.moveFailed path temporary error)
    discard temporary
    return .error (.replace path error)

end Saving

def Document.save (document : Document) (path : Path) :
    WriteMode → Script (Except ConfigError Unit)
  | .truncate => Saving.writeFile document path
  | .replace => do
    match ← Saving.writeFile document path.temporary with
    | .error error => return .error error
    | .ok () => Saving.moveIntoPlace path.temporary path

end IniSettings
