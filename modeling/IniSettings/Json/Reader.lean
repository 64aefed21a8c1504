import IniSettings.Text.Decimal
import IniSettings.Text.Hexadecimal

/-!
# Reading JSON

`Json.parse?` reads one JSON value with blanks around it. Strings and numbers are kept as far as a
boxed value needs them: a number is a natural of 64 bits or any other number, and a string that
escapes half of a surrogate pair names no text. Such a string can be read past, and that is all.
-/

namespace IniSettings

inductive Json where
  | null
  | bool (value : Bool)
  | natural (value : UInt64)
  /-- A number with a sign, a fraction, an exponent or more than 64 bits. -/
  | number
  | string (content : Option String)
  | array (items : List Json)
  | object (members : List (Option String × Json))

namespace Json

def isSpace (c : Char) : Bool :=
  c == ' ' || c == '\n' || c == '\t' || c == '\r'

def skipSpace (text : List Char) : List Char :=
  text.dropWhile isSpace

/-! ## Strings -/

/-- What one step through a string gives: a character, or an escaped half of a surrogate pair. -/
inductive Piece where
  | char (c : Char)
  | half (unit : Nat)
deriving DecidableEq, Repr

def isHigh (unit : Nat) : Bool :=
  0xD800 ≤ unit && unit < 0xDC00

def isLow (unit : Nat) : Bool :=
  0xDC00 ≤ unit && unit < 0xE000

def pieceOfUnit (unit : Nat) : Piece :=
  if isHigh unit || isLow unit then .half unit else .char (Char.ofNat unit)

/-- The piece that four hexadecimal digits stand for. -/
def pieceOfDigits? (a b c d : Char) : Option Piece := do
  let a ← Text.hexValue? a
  let b ← Text.hexValue? b
  let c ← Text.hexValue? c
  let d ← Text.hexValue? d
  return pieceOfUnit (((a * 16 + b) * 16 + c) * 16 + d)

/-- The character that a backslash and a letter or sign stand for. -/
def escaped? : Char → Option Char
  | '"' => some '"'
  | '\\' => some '\\'
  | '/' => some '/'
  | 'b' => some '\x08'
  | 'f' => some '\x0c'
  | 'n' => some '\n'
  | 'r' => some '\r'
  | 't' => some '\t'
  | _ => none

/-- Reads the pieces up to the closing quote and that quote. Control characters have to be
escaped. -/
def readPieces : List Char → Option (List Piece × List Char)
  | [] => none
  | '"' :: rest => some ([], rest)
  | '\\' :: 'u' :: a :: b :: c :: d :: rest => do
    let piece ← pieceOfDigits? a b c d
    let (pieces, rest) ← readPieces rest
    return (piece :: pieces, rest)
  | '\\' :: letter :: rest => do
    let c ← escaped? letter
    let (pieces, rest) ← readPieces rest
    return (.char c :: pieces, rest)
  | c :: rest =>
    if c = '\\' ∨ c.toNat < 0x20 then none
    else do
      let (pieces, rest) ← readPieces rest
      return (.char c :: pieces, rest)

/-- The characters that the pieces name, if every half has its partner. -/
def joinPieces : List Piece → Option (List Char)
  | [] => some []
  | .char c :: rest => (joinPieces rest).map (c :: ·)
  | .half high :: .half low :: rest =>
    if isHigh high && isLow low then
      let point := 0x10000 + (high - 0xD800) * 0x400 + (low - 0xDC00)
      (joinPieces rest).map (Char.ofNat point :: ·)
    else none
  | .half _ :: _ => none

def readString (text : List Char) : Option (Option String × List Char) := do
  let (pieces, rest) ← readPieces text
  return ((joinPieces pieces).map String.ofList, rest)

/-! ## Numbers -/

/-- Reads digits, at least one. -/
def readDigits (text : List Char) : Option (List Char × List Char) :=
  match text.span Text.Decimal.isDigit with
  | ([], _) => none
  | (digits, rest) => some (digits, rest)

/-- Reads a fraction if there is one, and says whether there was. -/
def readFraction : List Char → Option (Bool × List Char)
  | '.' :: rest => (readDigits rest).map fun (_, rest) => (true, rest)
  | text => some (false, text)

def skipSign : List Char → List Char
  | '+' :: rest => rest
  | '-' :: rest => rest
  | text => text

/-- Reads an exponent if there is one, and says whether there was. -/
def readExponent : List Char → Option (Bool × List Char)
  | 'e' :: rest => (readDigits (skipSign rest)).map fun (_, rest) => (true, rest)
  | 'E' :: rest => (readDigits (skipSign rest)).map fun (_, rest) => (true, rest)
  | text => some (false, text)

/-- Reads a number without its sign. Only the number zero begins with the digit zero. -/
def readUnsigned (text : List Char) : Option (Json × List Char) := do
  let (digits, rest) ← readDigits text
  if digits.length > 1 && digits.head? == some '0' then none
  else
    let (fraction, rest) ← readFraction rest
    let (exponent, rest) ← readExponent rest
    if fraction || exponent then return (number, rest)
    else
      match Text.Decimal.parseBelow? UInt64.size digits with
      | some value => return (natural (UInt64.ofNat value), rest)
      | none => return (number, rest)

def readNumber : List Char → Option (Json × List Char)
  | '-' :: rest => (readUnsigned rest).map fun (_, rest) => (number, rest)
  | text => readUnsigned text

/-! ## Values -/

def afterWord : (word text : List Char) → Option (List Char)
  | [], text => some text
  | _ :: _, [] => none
  | w :: word, c :: text => if w = c then afterWord word text else none

def readScalar : List Char → Option (Json × List Char)
  | '"' :: rest => (readString rest).map fun (content, rest) => (string content, rest)
  | 'n' :: rest => (afterWord ['u', 'l', 'l'] rest).map fun rest => (null, rest)
  | 't' :: rest => (afterWord ['r', 'u', 'e'] rest).map fun rest => (bool true, rest)
  | 'f' :: rest => (afterWord ['a', 'l', 's', 'e'] rest).map fun rest => (bool false, rest)
  | text => readNumber text

def readKey (text : List Char) : Option (Option String × List Char) :=
  match skipSpace text with
  | '"' :: rest =>
    match readString rest with
    | none => none
    | some (key, rest) =>
      match skipSpace rest with
      | ':' :: rest => some (key, rest)
      | _ => none
  | _ => none

mutual

/-- Reads a value after blanks. Each level of nesting takes two calls and at least one character, as
does each further item, so twice the length of the text is fuel enough. -/
def readValue : (fuel : Nat) → List Char → Option (Json × List Char)
  | 0, _ => none
  | fuel + 1, text =>
    match skipSpace text with
    | '[' :: rest =>
      match skipSpace rest with
      | ']' :: rest => some (array [], rest)
      | _ => (readItems fuel rest).map fun (items, rest) => (array items, rest)
    | '{' :: rest =>
      match skipSpace rest with
      | '}' :: rest => some (object [], rest)
      | _ => (readMembers fuel rest).map fun (members, rest) => (object members, rest)
    | text => readScalar text

/-- Reads items up to the closing bracket, at least one. -/
def readItems : (fuel : Nat) → List Char → Option (List Json × List Char)
  | 0, _ => none
  | fuel + 1, text =>
    match readValue fuel text with
    | none => none
    | some (item, rest) =>
      match skipSpace rest with
      | ']' :: rest => some ([item], rest)
      | ',' :: rest => (readItems fuel rest).map fun (items, rest) => (item :: items, rest)
      | _ => none

/-- Reads members up to the closing brace, at least one. -/
def readMembers : (fuel : Nat) → List Char → Option (List (Option String × Json) × List Char)
  | 0, _ => none
  | fuel + 1, text =>
    match readKey text with
    | none => none
    | some (key, rest) =>
      match readValue fuel rest with
      | none => none
      | some (value, rest) =>
        match skipSpace rest with
        | '}' :: rest => some ([(key, value)], rest)
        | ',' :: rest =>
          (readMembers fuel rest).map fun (members, rest) => ((key, value) :: members, rest)
        | _ => none

end

/-- The value that the whole text is, blanks around it aside. -/
def parse? (text : String) : Option Json :=
  match readValue (2 * text.toList.length + 1) text.toList with
  | some (value, rest) => if (skipSpace rest).isEmpty then some value else none
  | none => none

end Json

end IniSettings
