import IniSettings.Command.Argument
import IniSettings.Log
import IniSettings.Pattern.Check

/-!
# Filters of the log

A filter is a list of directives between commas. A directive names a level, or a part of the
program, or both with an equals sign between them; a part can be narrowed to a span in brackets
and to a field of it in braces. Levels are names in any case, or numbers from 0 to 5. A field may
have a value, which is a truth value, a number or a pattern.
-/

namespace IniSettings.CommandLine

inductive FilterError where
  | directive
  | level
  | pattern (text : List Char) (failure : Pattern.Failure)
deriving DecidableEq, Repr

def FilterError.chain : FilterError → List String
  | .directive => ["invalid filter directive"]
  | .level =>
    let text := "error parsing level filter: expected one of \"off\", \"error\", \"warn\", " ++
      "\"info\", \"debug\", \"trace\", or a number 0-5"
    [text, text]
  | .pattern text failure =>
    let causes := failure.chain text
    ("invalid field filter: " ++ causes.headD "") :: causes

namespace LogFilter

/-! ## Values of fields -/

def dropSign : List Char → List Char
  | '+' :: rest => rest
  | '-' :: rest => rest
  | text => text

/-- Digits with at most one point among them, at least one digit. -/
def isDecimal (text : List Char) : Bool :=
  let (whole, rest) := text.span Text.Decimal.isDigit
  match rest with
  | [] => !whole.isEmpty
  | '.' :: rest => rest.all Text.Decimal.isDigit && !(whole.isEmpty && rest.isEmpty)
  | _ => false

/-- The text writes a number, which may have an exponent, be infinite or be none at all. -/
def isNumber (text : List Char) : Bool :=
  let text := (dropSign text).map Char.toLower
  if ["inf", "infinity", "nan"].contains (String.ofList text) then true
  else
    let (mantissa, rest) := text.span (· != 'e')
    match rest with
    | [] => isDecimal mantissa
    | _ :: exponent =>
      let digits := dropSign exponent
      isDecimal mantissa && !digits.isEmpty && digits.all Text.Decimal.isDigit

/-- A value of a field that is neither a truth value nor a number is a pattern. -/
def checkValue (text : List Char) : Except FilterError Unit :=
  if text = "true".toList ∨ text = "false".toList ∨ isNumber text then .ok ()
  else
    match Pattern.check text with
    | .ok () => .ok ()
    | .error failure => .error (.pattern text failure)

/-- A field may have a value behind an equals sign. What follows a second one is ignored. -/
def checkField (text : List Char) : Except FilterError Unit :=
  match text.splitOn '=' with
  | _ :: value :: _ => checkValue value
  | _ => .ok ()

/-! ## Directives -/

/-- How far a directive is read. Places are numbers of bytes. -/
inductive State where
  | start
  /-- In a level or the name of a part. -/
  | target
  /-- In the name of a span that begins at that place. -/
  | span (first : Nat)
  /-- In a field that begins at that place. -/
  | field (first : Nat)
  | fields
  | closed
  /-- In a level that follows an equals sign and begins at that place. -/
  | level (first : Nat)
deriving DecidableEq, Repr

def canStart (c : Char) : Bool :=
  c == '-' || c == ':' || c == '_' || Text.isAlphanumeric c

def dropBytes (text : List Char) (count : Nat) : Option (List Char) :=
  match text with
  | [] => if count = 0 then some [] else none
  | c :: rest =>
    if count = 0 then some (c :: rest)
    else if c.utf8Size ≤ count then dropBytes rest (count - c.utf8Size)
    else none

def takeBytes (text : List Char) (count : Nat) : Option (List Char) :=
  match text with
  | [] => if count = 0 then some [] else none
  | c :: rest =>
    if count = 0 then some []
    else if c.utf8Size ≤ count then (takeBytes rest (count - c.utf8Size)).map (c :: ·)
    else none

def cut (text : List Char) (first last : Nat) : Except FilterError (List Char) :=
  match (dropBytes text first).bind fun rest => takeBytes rest (last - first) with
  | some part => .ok part
  | none => .error .directive

def step (text : List Char) (place : Nat) : State → Char → Except FilterError State
  | .start, c =>
    if c = '[' then .ok (.span (place + 1))
    else if canStart c then .ok .target
    else .error .directive
  | .target, c => do
    if c = '=' ∨ c = '[' then
      let _ ← cut text 0 place
      return if c = '=' then .level (place + 1) else .span (place + 1)
    else return .target
  | .span first, c => do
    if c = ']' ∨ c = '\x7b' then
      let _ ← cut text first place
      return if c = ']' then .closed else .field (place + 1)
    else return .span first
  | .field first, c => do
    if c = '\x7d' then
      let field ← cut text first place
      if field.isEmpty then throw .directive
      checkField field
      return .fields
    else return .field first
  | .fields, c => if c = ']' then .ok .closed else .error .directive
  | .closed, c => if c = '=' then .ok (.level (place + 1)) else .error .directive
  | .level first, _ => .ok (.level first)

def steps (text : List Char) (place : Nat) (state : State) :
    List Char → Except FilterError State
  | [] => .ok state
  | c :: rest => do
    let state ← step text place state c
    steps text (place + c.utf8Size) state rest

def isLevel (text : List Char) : Bool :=
  match Argument.readNumber text with
  | .ok value => value ≤ 5
  | .error _ =>
    let name := String.ofList (text.map Char.toLower)
    ["", "off", "error", "warn", "info", "debug", "trace"].contains name

def trim (text : List Char) : List Char :=
  ((text.dropWhile Text.isWhiteSpace).reverse.dropWhile Text.isWhiteSpace).reverse

/-- White space around a directive is passed over. It still belongs to the text that parts are cut
from, at the places where they stand without it. -/
def checkDirective (text : List Char) : Except FilterError Unit := do
  match ← steps text 0 .start (trim text) with
  | .target => return ()
  | .closed => return ()
  | .level first =>
    match dropBytes text first with
    | none => throw .directive
    | some level => if isLevel level then return () else throw .level
  | _ => throw .directive

/-- Checks the directives in their order. Nothing between two commas is no directive. -/
def checkEach : List (List Char) → Except FilterError Unit
  | [] => .ok ()
  | [] :: rest => checkEach rest
  | text :: rest => do
    checkDirective text
    checkEach rest

def check (text : String) : Except FilterError Unit :=
  checkEach (text.toList.splitOn ',')

/-! ## What is let through -/

/-- The levels that count in a threshold, from those that let nothing through to those that let
all through. -/
def levelOf? (text : List Char) : Option Nat :=
  match Argument.readNumber text with
  | .ok value => if value ≤ 5 then some value else none
  | .error _ =>
    ["off", "error", "warn", "info", "debug", "trace"].idxOf?
      (String.ofList (text.map Char.toLower))

/-- The level up to which entries are let through: that of the last directive that names a level
alone, or else errors only. -/
def threshold (text : String) : Nat :=
  ((text.toList.splitOn ',').filterMap levelOf?).getLast?.getD 1

def rank : LogLevel → Nat
  | .error => 1
  | .warn => 2
  | .info => 3
  | .debug => 4

/-- The filter lets an entry through. Without a filter that is all but debugging. -/
def wanted (text : Option String) (entry : LogEntry) : Bool :=
  rank entry.level ≤ (text.map threshold).getD (rank .info)

end LogFilter

end IniSettings.CommandLine
