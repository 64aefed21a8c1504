import IniSettings.Document.Scanner
import IniSettings.Text.Utf8

/-!
# Scanning the bytes of a text

`ByteScanner` takes the steps of `Scanner` over the bytes of a text, with a place among them for a
cursor. What it must not do with such a place is a `Fault`, which ends the run: to cut a text out
of the bytes inside of a character or beyond their end, to ask for a byte that is not there, to
count a line where none ends, and to write where there is no section or without a key.
-/

namespace IniSettings

inductive Fault where
  | noByte (place : Nat)
  /-- The two places are out of order, out of range, or one of them lies inside of a character. -/
  | badSlice (start stop : Nat)
  | noLineFeed (place : Nat)
  | noSection (index : Nat)
  | aborted (abort : Abort)
deriving DecidableEq, Repr

namespace Text.Utf8

/-- A byte of a character other than its first one. -/
def isContinuation (byte : UInt8) : Bool :=
  0x80 ≤ byte.toNat && byte.toNat < 0xC0

/-- Whether the place lies between two characters, or at an end of the text. -/
def isBoundary (bytes : Bytes) (place : Nat) : Bool :=
  match bytes[place]? with
  | none => place == bytes.length
  | some byte => place == 0 || !isContinuation byte

/-- The text between two places. -/
def slice (bytes : Bytes) (start stop : Nat) : Except Fault String :=
  if start ≤ stop ∧ stop ≤ bytes.length ∧ isBoundary bytes start ∧ isBoundary bytes stop then
    .ok (decode ((bytes.drop start).take (stop - start)))
  else .error (.badSlice start stop)

/-- Whether the byte is that of an ASCII character. -/
def isMark (mark : Char) (byte : UInt8) : Bool :=
  byte.toNat == mark.toNat

def isBlankByte (byte : UInt8) : Bool :=
  isMark ' ' byte || isMark '\t' byte || isMark '\r' byte

/-- The next place at which there is no such byte. -/
def skipWhile (bytes : Bytes) (skipped : UInt8 → Bool) (place : Nat) : Nat :=
  if within : place < bytes.length then
    if skipped bytes[place] then skipWhile bytes skipped (place + 1) else place
  else place
termination_by bytes.length - place

/-- Goes back from `stop` over blanks, but not past `start`. -/
def trimBack (bytes : Bytes) (start : Nat) : (stop : Nat) → Except Fault Nat
  | 0 => .ok 0
  | stop + 1 =>
    if start < stop + 1 then
      match bytes[stop]? with
      | none => .error (.noByte stop)
      | some byte => if isBlankByte byte then trimBack bytes start stop else .ok (stop + 1)
    else .ok (stop + 1)

end Text.Utf8

structure ByteScanner where
  place : Nat
  line : Nat
  expectation : Expectation
  document : Document
  /-- What was reported, the last line first. -/
  reported : List Diagnostic
deriving DecidableEq, Repr

namespace ByteScanner
open Text.Utf8

def start : ByteScanner :=
  ⟨0, 1, .sectionBegin, Document.empty, []⟩

def reading (scanner : ByteScanner) : Reading :=
  ⟨scanner.document, scanner.reported.reverse⟩

/-! ## The cursor -/

def expect (scanner : ByteScanner) (expectation : Expectation) : ByteScanner :=
  { scanner with expectation }

def moveTo (scanner : ByteScanner) (place : Nat) : ByteScanner :=
  { scanner with place }

def report (scanner : ByteScanner) (defect : Defect) : ByteScanner :=
  { scanner with reported := ⟨scanner.line, defect⟩ :: scanner.reported }

def enterSection (scanner : ByteScanner) (name : String) : ByteScanner :=
  let (document, index) := scanner.document.openSection name
  { scanner with expectation := .assignment index, document }

/-- Writes a pair to the section of that number, which has to be there. -/
def assign (scanner : ByteScanner) (index : Nat) (key value : String) :
    Except Fault ByteScanner :=
  if index < scanner.document.size then
    match scanner.document.setAt index key value with
    | .error abort => .error (.aborted abort)
    | .ok document => .ok { scanner with document }
  else .error (.noSection index)

variable (bytes : Bytes)

def peek (scanner : ByteScanner) : Option UInt8 :=
  bytes[scanner.place]?

def skipBlanks (scanner : ByteScanner) : ByteScanner :=
  scanner.moveTo (skipWhile bytes isBlankByte scanner.place)

/-- Moves to the next such mark, or to the end of the line without one. -/
def scanUntil (mark : Char) (scanner : ByteScanner) : ByteScanner :=
  scanner.moveTo
    (skipWhile bytes (fun byte => !isMark mark byte && !isMark '\n' byte) scanner.place)

/-- Moves past the line feed at the cursor. -/
def passFeed (scanner : ByteScanner) : Except Fault ByteScanner :=
  if (scanner.peek bytes).any (isMark '\n') then
    .ok { scanner with place := scanner.place + 1, line := scanner.line + 1 }
  else .error (.noLineFeed scanner.place)

/-- Moves past the end of a line, or stays at the end of the text. -/
def passLineEnd (scanner : ByteScanner) : Except Fault ByteScanner :=
  if (scanner.peek bytes).any (isMark '\n') then scanner.passFeed bytes else .ok scanner

def skipLine (scanner : ByteScanner) : Except Fault ByteScanner :=
  (scanner.scanUntil bytes '\n').passLineEnd bytes

/-! ## The steps -/

/-- What a step comes to: a run goes on, or it is at the end of the text. -/
inductive Turn where
  | next (scanner : ByteScanner)
  | last (scanner : ByteScanner)
deriving DecidableEq, Repr

/-- Passes blanks and the line they fill, and leaves to `other` what is at another byte. -/
def lineBegin (scanner : ByteScanner)
    (other : ByteScanner → UInt8 → Except Fault ByteScanner) : Except Fault Turn :=
  let scanner := scanner.skipBlanks bytes
  match scanner.peek bytes with
  | none => .ok (.last scanner)
  | some byte =>
    Turn.next <$> if isMark '\n' byte then scanner.passFeed bytes else other scanner byte

def sectionBegin (scanner : ByteScanner) : Except Fault Turn :=
  scanner.lineBegin bytes fun scanner byte =>
    if isMark '[' byte then .ok ((scanner.moveTo (scanner.place + 1)).expect .sectionName)
    else (scanner.report .expectedSectionBegin).skipLine bytes

/-- What may follow the bracket that closes a header. -/
def headerEnd (scanner : ByteScanner) (name : String) : Except Fault ByteScanner :=
  let scanner := scanner.skipBlanks bytes
  match scanner.peek bytes with
  | none => .ok (scanner.enterSection name)
  | some byte =>
    if isMark '\n' byte then do
      let scanner ← scanner.passFeed bytes
      return scanner.enterSection name
    else (scanner.report .junkAfterHeader).skipLine bytes

def sectionName (scanner : ByteScanner) : Except Fault ByteScanner :=
  let start := scanner.place
  let scanner := (scanner.expect .sectionBegin).scanUntil bytes ']'
  match scanner.peek bytes with
  | none => .ok (scanner.report .unterminatedHeaderAtTextEnd)
  | some byte =>
    if isMark ']' byte then do
      let stop ← trimBack bytes start scanner.place
      let name ← slice bytes start stop
      let scanner := scanner.moveTo (scanner.place + 1)
      if name = "" then (scanner.report .emptySectionName).skipLine bytes
      else scanner.headerEnd bytes name
    else (scanner.report .unterminatedHeaderAtLineEnd).skipLine bytes

/-- Reads the value after the equality sign, and passes its line. -/
def value (scanner : ByteScanner) (index : Nat) (key : String) : Except Fault ByteScanner := do
  let scanner := scanner.skipBlanks bytes
  let start := scanner.place
  let scanner := scanner.scanUntil bytes '\n'
  let stop ← trimBack bytes start scanner.place
  let value ← slice bytes start stop
  let scanner ← scanner.assign index key value
  scanner.passLineEnd bytes

def pair (scanner : ByteScanner) (index : Nat) : Except Fault ByteScanner :=
  let start := scanner.place
  let scanner := scanner.scanUntil bytes '='
  if (scanner.peek bytes).any (isMark '=') then do
    let stop ← trimBack bytes start scanner.place
    if stop = start then (scanner.report .expectedKey).skipLine bytes
    else
      let key ← slice bytes start stop
      (scanner.moveTo (scanner.place + 1)).value bytes index key
  else (scanner.report .expectedAssignment).skipLine bytes

def assignment (scanner : ByteScanner) (index : Nat) : Except Fault Turn :=
  scanner.lineBegin bytes fun scanner byte =>
    if isMark '[' byte then .ok (scanner.expect .sectionBegin) else scanner.pair bytes index

def step (scanner : ByteScanner) : Except Fault Turn :=
  match scanner.expectation with
  | .sectionBegin => scanner.sectionBegin bytes
  | .sectionName => Turn.next <$> scanner.sectionName bytes
  | .assignment index => scanner.assignment bytes index

end ByteScanner

end IniSettings
