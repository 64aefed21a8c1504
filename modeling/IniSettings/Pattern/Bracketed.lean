import IniSettings.Pattern.Escape

/-!
# Classes between brackets

A class lists characters, ranges, named classes and further classes in brackets, and combines them
by set operations. The open brackets are kept on a stack with what was read before them.
-/

namespace IniSettings.Pattern

/-- Items of a class side by side, the last one first. -/
structure Union where
  span : Span
  items : List CharClass

namespace Union

def emptyAt (cursor : Cursor) : Union :=
  ⟨cursor.here, []⟩

def push (union : Union) (item : CharClass) : Union :=
  let start := if union.items.isEmpty then item.span.start else union.span.start
  ⟨⟨start, item.span.stop⟩, item :: union.items⟩

def toClass (union : Union) : CharClass :=
  match union.items with
  | [] => .empty union.span
  | [item] => item
  | items => .union union.span items.reverse

end Union

/-- What waits for the end of a class or of an operand. -/
inductive Pending where
  /-- An opened bracket, with what stands before it in the class around it. -/
  | bracket (around : Union) (span : Span) (negated : Bool)
  | operand (operator : ClassOperator) (left : CharClass)

/-- A class whose bracket was opened, and what was read in it so far. -/
structure Opened where
  span : Span
  negated : Bool
  content : Union

namespace Bracketed

def unclosed : List Pending → Mistake
  | [] => .at .classUnclosed (Cursor.ofText []).here
  | .bracket _ span _ :: _ => .at .classUnclosed span
  | .operand .. :: rest => unclosed rest

def verbatim (cursor : Cursor) (c : Char) : Literal :=
  ⟨cursor.span, c, false⟩

/-! ## Brackets -/

/-- Reads hyphens, which stand for themselves at the begin of a class. Each takes a character of
the text, so its length is fuel enough. -/
def readHyphens (spaced : Bool) (start : Position) :
    (fuel : Nat) → Union → Cursor → Except Mistake (Union × Cursor)
  | 0, union, cursor => .ok (union, cursor)
  | fuel + 1, union, cursor =>
    if cursor.rest.head? = some '-' then
      let behind := cursor.next spaced
      if behind.atEnd then .error (.at .classUnclosed ⟨start, start⟩)
      else
        let item := CharClass.primitive (.literal (verbatim cursor '-'))
        readHyphens spaced start fuel (union.push item) behind
    else .ok (union, cursor)

/-- Reads what opens a class: the bracket, a circumflex that negates it, hyphens, and without these
a closing bracket that stands for itself. -/
def readOpening (spaced : Bool) (bracket : Cursor) : Except Mistake (Opened × Cursor) := do
  let start := bracket.position
  let cursor := bracket.next spaced
  if cursor.atEnd then throw (.at .classUnclosed (cursor.since start))
  let negated := cursor.rest.head? = some '^'
  let cursor := if negated then cursor.next spaced else cursor
  if cursor.atEnd then throw (.at .classUnclosed (cursor.since start))
  let (union, cursor) ←
    readHyphens spaced start cursor.rest.length (.emptyAt cursor) cursor
  if union.items.isEmpty ∧ cursor.rest.head? = some ']' then
    let item := CharClass.primitive (.literal (verbatim cursor ']'))
    let behind := cursor.next spaced
    if behind.atEnd then throw (.at .classUnclosed (behind.since start))
    return (⟨behind.since start, negated, union.push item⟩, behind)
  else return (⟨cursor.since start, negated, union⟩, cursor)

/-! ## Items -/

def asciiNames : List String :=
  ["alnum", "alpha", "ascii", "blank", "cntrl", "digit", "graph", "lower", "print", "punct",
    "space", "upper", "word", "xdigit"]

def readAscii? (cursor : Cursor) : Option (CharClass × Cursor) := do
  let inner ← cursor.accept? ['[', ':']
  let negated := inner.rest.head? = some '^'
  let inner := if negated then inner.advance else inner
  let (name, behind) := inner.takeWhile false (· != ':') inner.rest.length
  let behind ← behind.accept? [':', ']']
  if asciiNames.contains (String.ofList name) then
    some (.ascii (behind.since cursor.position) negated, behind)
  else none

def readPrimitive (spaced : Bool) (cursor : Cursor) : Except Mistake (Primitive × Cursor) :=
  match cursor.rest with
  | [] => .error (.at .classUnclosed cursor.here)
  | '\\' :: _ => Escape.read spaced cursor
  | c :: _ => .ok (.literal (verbatim cursor c), cursor.advance)

def toItem : Primitive → Except Mistake CharClass
  | .dot span => .error (.at .classEscape span)
  | .assertion span _ => .error (.at .classEscape span)
  | item => .ok (.primitive item)

def toBoundary : Primitive → Except Mistake Literal
  | .literal written => .ok written
  | item => .error (.at .classBoundary item.span)

/-- Reads an item or a range. A hyphen before a closing bracket or before another hyphen makes no
range. -/
def readItem (spaced : Bool) (stack : List Pending) (cursor : Cursor) :
    Except Mistake (CharClass × Cursor) := do
  let (low, cursor) ← readPrimitive spaced cursor
  let cursor := cursor.skip spaced
  if cursor.atEnd then throw (unclosed stack)
  let following := cursor.peek spaced
  if cursor.rest.head? ≠ some '-' ∨ following = some ']' ∨ following = some '-' then
    return (← toItem low, cursor)
  else
    let cursor := cursor.next spaced
    if cursor.atEnd then throw (unclosed stack)
    let (high, cursor) ← readPrimitive spaced cursor
    let span := ⟨low.span.start, high.span.stop⟩
    let first ← toBoundary low
    let last ← toBoundary high
    if first.char ≤ last.char then return (.range span first last, cursor)
    else throw (.at .classOrder span)

/-! ## The content of a class -/

def applyOperation (right : CharClass) : List Pending → CharClass × List Pending
  | .operand operator left :: rest => (.combined operator left right, rest)
  | stack => (right, stack)

/-- The operation whose sign stands here. Each sign is a character written twice. -/
def operator? : List Char → Option ClassOperator
  | '&' :: '&' :: _ => some .intersection
  | '-' :: '-' :: _ => some .difference
  | '~' :: '~' :: _ => some .symmetricDifference
  | _ => none

/-- Reads on to the bracket that closes the outermost class. Each round takes a character of the
text, so its length is fuel enough. -/
def readContent (spaced : Bool) :
    (fuel : Nat) → List Pending → Union → Cursor → Except Mistake (CharClass × Cursor)
  | 0, stack, _, _ => .error (unclosed stack)
  | fuel + 1, stack, union, cursor =>
    let cursor := cursor.skip spaced
    match cursor.rest with
    | [] => .error (unclosed stack)
    | '[' :: _ =>
      match readAscii? cursor with
      | some (item, cursor) => readContent spaced fuel stack (union.push item) cursor
      | none => do
        let (opened, cursor) ← readOpening spaced cursor
        let stack := .bracket union opened.span opened.negated :: stack
        readContent spaced fuel stack opened.content cursor
    | ']' :: _ =>
      match applyOperation union.toClass stack with
      | (inner, .bracket around span negated :: stack) =>
        let cursor := cursor.advance
        let closed := CharClass.bracketed (cursor.since span.start) negated inner
        if stack.isEmpty then .ok (closed, cursor)
        else readContent spaced fuel stack (around.push closed) cursor
      | _ => .error (unclosed stack)
    | text =>
      match operator? text with
      | some operator =>
        let (left, stack) := applyOperation union.toClass stack
        let cursor := cursor.advance.advance
        readContent spaced fuel (.operand operator left :: stack) (.emptyAt cursor) cursor
      | none => do
        let (item, cursor) ← readItem spaced stack cursor
        readContent spaced fuel stack (union.push item) cursor

def read (spaced : Bool) (cursor : Cursor) : Except Mistake (CharClass × Cursor) := do
  let (opened, inner) ← readOpening spaced cursor
  let stack := [.bracket (.emptyAt cursor) opened.span opened.negated]
  readContent spaced (inner.rest.length + 1) stack opened.content inner

end Bracketed

end IniSettings.Pattern
