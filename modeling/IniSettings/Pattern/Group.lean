import IniSettings.Pattern.Basic
import IniSettings.Pattern.Mistake

/-!
# Heads of groups

What stands behind an opening parenthesis: a name or flags for the group, or flags for what
follows, which close the parenthesis at once.
-/

namespace IniSettings.Pattern

abbrev Names := List (String × Span)

inductive Head where
  /-- Flags for what follows. -/
  | flags (items : Flags)
  /-- A group that was opened, with its flags. -/
  | group (flags : Flags) (names : Names)

namespace Group

/-! ## Names -/

def isNameChar (first : Bool) (c : Char) : Bool :=
  if first then c == '_' || Text.isAlphabetic c
  else c == '_' || c == '.' || c == '[' || c == ']' || Text.isAlphanumeric c

/-- Finds the angle bracket behind a name. -/
def nameEnd (first : Bool) (position : Position) : List Char → Except Mistake Position
  | [] => .error (.at .nameUnclosed ⟨position, position⟩)
  | '>' :: _ => .ok position
  | c :: rest =>
    if isNameChar first c then nameEnd false (position.after c) rest
    else .error (.at .nameCharacter ⟨position, position.after c⟩)

def readName (names : Names) (cursor : Cursor) : Except Mistake (Names × Cursor) := do
  let stop ← nameEnd true cursor.position cursor.rest
  let length := stop.index - cursor.position.index
  let name := String.ofList (cursor.rest.take length)
  let span : Span := ⟨cursor.position, stop⟩
  if length = 0 then throw (.at .nameEmpty span)
  match names.lookup name with
  | some earlier => throw ⟨.nameRepeated, span, some earlier⟩
  | none =>
    let close : Cursor := ⟨stop, cursor.rest.drop length⟩
    return ((name, span) :: names, close.advance)

/-! ## Flags -/

def itemOf? : Char → Option FlagItem
  | '-' => some .negation
  | 'i' => some (.flag .ignoreCase)
  | 'm' => some (.flag .multiLine)
  | 's' => some (.flag .dotMatchesAll)
  | 'U' => some (.flag .lazy)
  | 'u' => some (.flag .unicode)
  | 'R' => some (.flag .carriageReturn)
  | 'x' => some (.flag .spaced)
  | _ => none

def repeated : FlagItem → Mistake.Kind
  | .negation => .negationRepeated
  | .flag _ => .flagRepeated

/-- Reads flags up to a colon or a closing parenthesis. Those that were read come last one
first. -/
def readFlags (items : List (FlagItem × Span)) (position : Position) :
    List Char → Except Mistake (Flags × Cursor)
  | [] => .error (.at .flagAtEnd ⟨position, position⟩)
  | c :: rest =>
    let span : Span := ⟨position, position.after c⟩
    if c = ':' ∨ c = ')' then
      match items with
      | (.negation, span) :: _ => .error (.at .flagDangling span)
      | _ => .ok (items.reverse.map Prod.fst, ⟨position, c :: rest⟩)
    else
      match itemOf? c with
      | none => .error (.at .flagUnknown span)
      | some item =>
        match items.lookup item with
        | some earlier => .error ⟨repeated item, span, some earlier⟩
        | none => readFlags ((item, span) :: items) (position.after c) rest

/-! ## Heads -/

def lookAround? (cursor : Cursor) : Option Cursor :=
  [['?', '='], ['?', '!'], ['?', '<', '='], ['?', '<', '!']].findSome? (cursor.accept? ·)

def named? (cursor : Cursor) : Option Cursor :=
  (cursor.accept? ['?', 'P', '<']).or (cursor.accept? ['?', '<'])

def readHead (spaced : Bool) (names : Names) (cursor : Cursor) :
    Except Mistake (Head × Cursor) := do
  let inner := cursor.next spaced
  if let some behind := lookAround? inner then
    throw (.at .lookAround (behind.since cursor.position))
  else if let some name := named? inner then
    let (names, behind) ← readName names name
    return (.group [] names, behind)
  else if let some flagged := inner.accept? ['?'] then
    if flagged.atEnd then throw (.at .groupUnclosed cursor.span)
    let (flags, close) ← readFlags [] flagged.position flagged.rest
    if close.rest.head? = some ':' then return (.group flags names, close.advance)
    else if flags.isEmpty then throw (.at .nothingRepeated inner.here)
    else return (.flags flags, close.advance)
  else return (.group [] names, inner)

end Group

end IniSettings.Pattern
