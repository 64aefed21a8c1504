import IniSettings.Text.Letter

/-!
# Places in a pattern

Positions and spans say where in a pattern something stands. A cursor is a position and the text
from there on. In a spaced pattern white space and comments, which run from a number sign to the
end of their line, are passed over.
-/

namespace IniSettings.Pattern

structure Position where
  index : Nat
  line : Nat
  column : Nat
deriving DecidableEq, Repr

def Position.first : Position :=
  ⟨0, 1, 1⟩

def Position.after (position : Position) (c : Char) : Position :=
  if c = '\n' then ⟨position.index + 1, position.line + 1, 1⟩
  else ⟨position.index + 1, position.line, position.column + 1⟩

structure Span where
  start : Position
  stop : Position
deriving DecidableEq, Repr

structure Cursor where
  position : Position
  rest : List Char
deriving DecidableEq, Repr

namespace Cursor

def ofText (text : List Char) : Cursor :=
  ⟨.first, text⟩

def atEnd (cursor : Cursor) : Bool :=
  cursor.rest.isEmpty

def advance (cursor : Cursor) : Cursor :=
  match cursor.rest with
  | [] => cursor
  | c :: rest => ⟨cursor.position.after c, rest⟩

def toEnd (cursor : Cursor) : Cursor :=
  ⟨cursor.rest.foldl Position.after cursor.position, []⟩

def skipSpace (comment : Bool) (position : Position) : List Char → Cursor
  | [] => ⟨position, []⟩
  | c :: rest =>
    if comment then skipSpace (c != '\n') (position.after c) rest
    else if Text.isWhiteSpace c then skipSpace false (position.after c) rest
    else if c = '#' then skipSpace true (position.after c) rest
    else ⟨position, c :: rest⟩

def skip (spaced : Bool) (cursor : Cursor) : Cursor :=
  if spaced then skipSpace false cursor.position cursor.rest else cursor

/-- Moves past one character and what may be passed over after it. -/
def next (spaced : Bool) (cursor : Cursor) : Cursor :=
  cursor.advance.skip spaced

/-- The character after the current one, white space aside. Of a comment no more than the number
sign is passed over. -/
def peek (spaced : Bool) (cursor : Cursor) : Option Char :=
  let rest := cursor.rest.tail
  if spaced then
    match rest.dropWhile Text.isWhiteSpace with
    | '#' :: rest => (rest.dropWhile Text.isWhiteSpace).head?
    | rest => rest.head?
  else rest.head?

def accept? : (word : List Char) → Cursor → Option Cursor
  | [], cursor => some cursor
  | c :: word, cursor =>
    if cursor.rest.head? = some c then accept? word cursor.advance else none

/-- The characters from here on that pass the test, and the cursor behind them. Each takes a
character of the text, so its length is fuel enough. -/
def takeWhile (spaced : Bool) (test : Char → Bool) : (fuel : Nat) → Cursor → List Char × Cursor
  | 0, cursor => ([], cursor)
  | fuel + 1, cursor =>
    match cursor.rest with
    | [] => ([], cursor)
    | c :: _ =>
      if test c then
        let (taken, behind) := takeWhile spaced test fuel (cursor.next spaced)
        (c :: taken, behind)
      else ([], cursor)

def here (cursor : Cursor) : Span :=
  ⟨cursor.position, cursor.position⟩

def span (cursor : Cursor) : Span :=
  ⟨cursor.position, cursor.advance.position⟩

def since (cursor : Cursor) (start : Position) : Span :=
  ⟨start, cursor.position⟩

end Cursor

end IniSettings.Pattern
