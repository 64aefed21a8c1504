import IniSettings.Pattern.Basic
import IniSettings.Pattern.Mistake
import IniSettings.Text.Decimal
import IniSettings.Text.Hexadecimal

/-!
# Escapes

What a backslash begins: a character by its number or as a sign, a class, or an assertion. No
closing brace ever reaches a pattern, so an opening one is never closed here.
-/

namespace IniSettings.Pattern.Escape

/-! ## Characters by their numbers -/

def readDigits (spaced : Bool) : (count value : Nat) → Cursor → Except Mistake (Nat × Cursor)
  | 0, value, cursor => .ok (value, cursor)
  | count + 1, value, cursor =>
    match cursor.rest with
    | [] => .error (.at .escapeAtEnd cursor.here)
    | c :: _ =>
      match Text.hexValue? c with
      | none => .error (.at .hexDigit cursor.span)
      | some digit => readDigits spaced count (value * 16 + digit) (cursor.next spaced)

/-- What is wrong with digits in braces: something that is no digit, or the end. -/
def bracedMistake (spaced : Bool) (brace : Cursor) : Mistake :=
  let inner := brace.next spaced
  let (_, behind) :=
    inner.takeWhile spaced (fun c => (Text.hexValue? c).isSome) inner.rest.length
  if behind.atEnd then .at .escapeAtEnd (behind.since brace.position)
  else .at .hexDigit behind.span

def readNumber (spaced : Bool) (start : Position) (count : Nat) (letter : Cursor) :
    Except Mistake (Primitive × Cursor) := do
  let digits := letter.next spaced
  if digits.rest.head? = some '{' then throw (bracedMistake spaced digits)
  let (value, behind) ← readDigits spaced count 0 digits
  if value.isValidChar then
    return (.literal ⟨behind.since start, Char.ofNat value, count == 2⟩, behind)
  else throw (.at .hexNoScalar (behind.since digits.position))

/-! ## Properties and word boundaries -/

def readProperty (spaced : Bool) (start : Position) (letter : Cursor) :
    Except Mistake (Primitive × Cursor) :=
  let name := letter.next spaced
  match name.rest with
  | [] => .error (.at .escapeAtEnd name.here)
  | '{' :: _ => .error (.at .escapeAtEnd name.toEnd.here)
  | '\\' :: _ => .error (.at .propertyMalformed name.span)
  | _ =>
    let behind := name.next spaced
    .ok (.property (behind.since start), behind)

def isBoundaryLetter (c : Char) : Bool :=
  c == '-' || c.isAlpha

/-- Looks at what follows a word boundary. A name in braces would say which kind of boundary it
is, and all else in braces counts repetitions. -/
def checkBoundary (spaced : Bool) (start : Position) (behind : Cursor) : Except Mistake Unit :=
  if behind.rest.head? = some '{' then
    let inner := behind.next spaced
    match inner.rest with
    | [] => .error (.at .boundaryAtEnd (inner.since start))
    | c :: _ =>
      if isBoundaryLetter c then
        let (_, stopped) := inner.takeWhile spaced isBoundaryLetter inner.rest.length
        .error (.at .boundaryUnclosed (stopped.since behind.position))
      else .ok ()
  else .ok ()

/-! ## Single letters and signs -/

/-- Any sign of ASCII can be escaped but the two angle brackets. -/
def isEscapable (c : Char) : Bool :=
  c.toNat < 0x80 && !c.isAlphanum && c != '<' && c != '>'

def control? : Char → Option Char
  | 'a' => some '\x07'
  | 'f' => some '\x0c'
  | 't' => some '\t'
  | 'n' => some '\n'
  | 'r' => some '\r'
  | 'v' => some '\x0b'
  | _ => none

/-- What the letter means that follows a backslash, where nothing belongs to it but the letter. -/
def meaning? (span : Span) (c : Char) : Option Primitive :=
  if c = 'd' ∨ c = 's' ∨ c = 'w' then some (.perl span false)
  else if c = 'D' ∨ c = 'S' ∨ c = 'W' then some (.perl span true)
  else if c = 'A' ∨ c = 'z' then some (.assertion span false)
  else if c = 'b' ∨ c = 'B' ∨ c = '<' ∨ c = '>' then some (.assertion span true)
  else if isEscapable c then some (.literal ⟨span, c, false⟩)
  else (control? c).map fun control => .literal ⟨span, control, false⟩

def read (spaced : Bool) (cursor : Cursor) : Except Mistake (Primitive × Cursor) :=
  let start := cursor.position
  let letter := cursor.advance
  match letter.rest with
  | [] => .error (.at .escapeAtEnd (letter.since start))
  | c :: _ =>
    let behind := letter.advance
    let span := behind.since start
    if Text.Decimal.isDigit c then .error (.at .backreference span)
    else if c = 'x' then readNumber spaced start 2 letter
    else if c = 'u' then readNumber spaced start 4 letter
    else if c = 'U' then readNumber spaced start 8 letter
    else if c = 'p' ∨ c = 'P' then readProperty spaced start letter
    else
      match meaning? span c with
      | none => .error (.at .escapeUnknown span)
      | some primitive =>
        if c = 'b' then
          (checkBoundary spaced start behind).map fun _ => (primitive, behind)
        else .ok (primitive, behind)

end IniSettings.Pattern.Escape
