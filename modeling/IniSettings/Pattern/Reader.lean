import IniSettings.Pattern.Bracketed
import IniSettings.Pattern.Group

/-!
# Reading patterns

`Pattern.read` reads a whole pattern. The open groups are kept on a stack with what was read before
them, and a group with a bar in it also with the branches before that bar.
-/

namespace IniSettings.Pattern

/-- Expressions side by side, the last one first. -/
structure Branch where
  start : Position
  parts : List Expression

namespace Branch

def startAt (cursor : Cursor) : Branch :=
  ⟨cursor.position, []⟩

def push (branch : Branch) (part : Expression) : Branch :=
  { branch with parts := part :: branch.parts }

def toExpression (branch : Branch) (stop : Position) : Expression :=
  match branch.parts with
  | [] => .empty
  | [part] => part
  | parts => .sequence ⟨branch.start, stop⟩ parts.reverse

end Branch

inductive Waiting where
  /-- An opened group, with what stands before it and whether that is spaced. -/
  | group (before : Branch) (parenthesis : Span) (flags : Flags) (spaced : Bool)
  /-- The branches before a bar, the last one first. -/
  | branches (start : Position) (branches : List Expression)

structure Reader where
  cursor : Cursor
  spaced : Bool
  names : Names
  stack : List Waiting
  branch : Branch

namespace Reader

def start (text : List Char) : Reader :=
  let cursor := Cursor.ofText text
  ⟨cursor, false, [], [], .startAt cursor⟩

def push (reader : Reader) (part : Expression) (cursor : Cursor) : Reader :=
  { reader with branch := reader.branch.push part, cursor }

/-! ## Groups and branches -/

def openGroup (reader : Reader) : Except Mistake Reader := do
  let (head, cursor) ← Group.readHead reader.spaced reader.names reader.cursor
  match head with
  | .flags flags =>
    let spaced := (flags.state? .spaced).getD reader.spaced
    return { reader.push (.flags flags) cursor with spaced }
  | .group flags names =>
    let waiting := Waiting.group reader.branch reader.cursor.span flags reader.spaced
    let spaced := (flags.state? .spaced).getD reader.spaced
    return ⟨cursor, spaced, names, waiting :: reader.stack, .startAt cursor⟩

def endBranches (reader : Reader) : Expression × List Waiting :=
  let stop := reader.cursor.position
  let last := reader.branch.toExpression stop
  match reader.stack with
  | .branches start branches :: stack =>
    (.alternation ⟨start, stop⟩ (last :: branches).reverse, stack)
  | stack => (last, stack)

def closeGroup (reader : Reader) : Except Mistake Reader :=
  match reader.endBranches with
  | (content, .group before parenthesis flags spaced :: stack) =>
    let cursor := reader.cursor.advance
    let group := Expression.group (cursor.since parenthesis.start) flags content
    .ok ⟨cursor, spaced, reader.names, stack, before.push group⟩
  | _ => .error (.at .groupUnopened reader.cursor.span)

def startBranch (reader : Reader) : Reader :=
  let ended := reader.branch.toExpression reader.cursor.position
  let cursor := reader.cursor.advance
  let stack :=
    match reader.stack with
    | .branches start branches :: stack => .branches start (ended :: branches) :: stack
    | stack => .branches reader.branch.start [ended] :: stack
  { reader with cursor, stack, branch := .startAt cursor }

/-! ## Repetitions -/

def countMistake (spaced : Bool) (brace : Cursor) : Mistake :=
  let inner := brace.next spaced
  let (_, first) := inner.takeWhile false Text.isWhiteSpace inner.rest.length
  let (digits, behind) := first.takeWhile spaced Text.Decimal.isDigit first.rest.length
  let (_, last) := behind.takeWhile spaced Text.isWhiteSpace behind.rest.length
  if last.atEnd then .at .countUnclosed (last.since brace.position)
  else if digits.isEmpty then .at .countNoDecimal (behind.since first.position)
  else if (Text.Decimal.parseBelow? UInt32.size digits).isNone then
    .at .decimalTooLarge (behind.since first.position)
  else .at .countUnclosed (last.since brace.position)

/-- Repeats the last expression. A question mark behind the sign belongs to it. -/
def repeatLast (reader : Reader) : Except Mistake Reader :=
  let missing := Mistake.at .nothingRepeated reader.cursor.here
  match reader.branch.parts with
  | [] => .error missing
  | part :: parts =>
    match part.start? with
    | none => .error missing
    | some start =>
      if reader.cursor.rest.head? = some '{' then
        .error (countMistake reader.spaced reader.cursor)
      else
        let behind := reader.cursor.advance
        let cursor := (behind.accept? ['?']).getD behind
        let repetition := Expression.repetition (cursor.since start) part
        .ok { reader with cursor, branch := { reader.branch with parts := repetition :: parts } }

/-! ## The whole pattern -/

def readPrimitive (reader : Reader) (c : Char) : Except Mistake Reader :=
  let cursor := reader.cursor
  let push (item : Primitive) := reader.push (.primitive item) cursor.advance
  match c with
  | '\\' =>
    (Escape.read reader.spaced cursor).map fun (item, behind) =>
      reader.push (.primitive item) behind
  | '.' => .ok (push (.dot cursor.span))
  | '^' => .ok (push (.assertion cursor.span false))
  | '$' => .ok (push (.assertion cursor.span false))
  | c => .ok (push (.literal ⟨cursor.span, c, false⟩))

/-- Reads one part of the pattern, which begins with that character. -/
def step (reader : Reader) (c : Char) : Except Mistake Reader :=
  if c = '(' then reader.openGroup
  else if c = ')' then reader.closeGroup
  else if c = '|' then .ok reader.startBranch
  else if c = '[' then
    (Bracketed.read reader.spaced reader.cursor).map fun (content, cursor) =>
      reader.push (.bracketed content) cursor
  else if c = '?' ∨ c = '*' ∨ c = '+' ∨ c = '{' then reader.repeatLast
  else reader.readPrimitive c

def finish (reader : Reader) : Except Mistake Expression :=
  match reader.endBranches with
  | (content, []) => .ok content
  | (_, .group _ parenthesis _ _ :: _) => .error (.at .groupUnclosed parenthesis)
  | (content, .branches .. :: _) => .ok content

/-- Reads on to the end. Each step takes a character of the text, so its length is fuel
enough. -/
def run : (fuel : Nat) → Reader → Except Mistake Expression
  | 0, reader => reader.finish
  | fuel + 1, reader =>
    let reader := { reader with cursor := reader.cursor.skip reader.spaced }
    match reader.cursor.rest with
    | [] => reader.finish
    | c :: _ =>
      match reader.step c with
      | .error mistake => .error mistake
      | .ok next => run fuel next

end Reader

def read (text : List Char) : Except Mistake Expression :=
  Reader.run (text.length + 1) (Reader.start text)

end IniSettings.Pattern
