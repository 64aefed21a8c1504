import IniSettings.Json.Reader

/-!
# The grammar of JSON

The same language told by its syntax trees. `Json.Source` is a value as it is written, with the
blanks before each of its tokens; it has a text and a value. Blanks, escapes, the case of letters
that are digits and the form of a number are free, so one value has many trees. A string stands for
the text whose units in UTF-16 it spells, if there is such a text.
-/

namespace IniSettings.Json

/-- White space, as it may stand before any token. -/
structure Blanks where
  text : List Char
  blank : ∀ c ∈ text, c = ' ' ∨ c = '\n' ∨ c = '\t' ∨ c = '\r'

/-! ## Strings -/

/-- The units of a character in UTF-16: its number, or the two halves of a surrogate pair. -/
def units (c : Char) : List Nat :=
  if c.toNat < 0x10000 then [c.toNat]
  else [0xD800 + (c.toNat - 0x10000) / 0x400, 0xDC00 + (c.toNat - 0x10000) % 0x400]

/-- What a letter or sign stands for after a backslash. -/
inductive Escape : (letter c : Char) → Prop where
  | quote : Escape '"' '"'
  | backslash : Escape '\\' '\\'
  | slash : Escape '/' '/'
  | backspace : Escape 'b' '\x08'
  | formFeed : Escape 'f' '\x0c'
  | lineFeed : Escape 'n' '\n'
  | carriageReturn : Escape 'r' '\r'
  | tab : Escape 't' '\t'

/-- A digit of base sixteen, in either case. -/
structure HexDigit where
  char : Char
  value : Fin 16
  spelled : char = Nat.digitChar value ∨ char = (Nat.digitChar value).toUpper

inductive Mark where
  | plain (c : Char) (free : c ≠ '"' ∧ c ≠ '\\' ∧ 0x20 ≤ c.toNat)
  | escape (letter c : Char) (stands : Escape letter c)
  | unit (first second third last : HexDigit)

namespace Mark

def text : Mark → List Char
  | plain c _ => [c]
  | escape letter _ _ => ['\\', letter]
  | unit first second third last => ['\\', 'u', first.char, second.char, third.char, last.char]

def units : Mark → List Nat
  | plain c _ => Json.units c
  | escape _ c _ => Json.units c
  | unit first second third last =>
    [((first.value * 16 + second.value) * 16 + third.value) * 16 + last.value]

end Mark

/-- A string between its quotes. It has no content if its units are not those of a text. -/
structure Quoted where
  marks : List Mark
  content : Option String
  content_eq_some_iff : ∀ text, content = some text ↔
    marks.flatMap Mark.units = text.toList.flatMap units

def Quoted.text (quoted : Quoted) : List Char :=
  '"' :: quoted.marks.flatMap Mark.text ++ ['"']

/-! ## Numbers -/

structure Digits where
  text : List Char
  nonempty : text ≠ []
  digit : ∀ c ∈ text, '0' ≤ c ∧ c ≤ '9'

structure Exponent where
  letter : Char
  sign : List Char
  digits : Digits
  isLetter : letter = 'e' ∨ letter = 'E'
  isSign : sign = [] ∨ sign = ['+'] ∨ sign = ['-']

def Exponent.text (exponent : Exponent) : List Char :=
  exponent.letter :: (exponent.sign ++ exponent.digits.text)

/-- A number. Only the number zero begins with the digit zero. -/
structure Numeral where
  negative : Bool
  whole : Digits
  fraction : Option Digits
  exponent : Option Exponent
  no_zero_first : whole.text.head? = some '0' → whole.text = ['0']

def fractionText (fraction : Option Digits) : List Char :=
  fraction.elim [] fun digits => '.' :: digits.text

def exponentText (exponent : Option Exponent) : List Char :=
  exponent.elim [] Exponent.text

namespace Numeral

def text (numeral : Numeral) : List Char :=
  (if numeral.negative then ['-'] else []) ++
    (numeral.whole.text ++ (fractionText numeral.fraction ++ exponentText numeral.exponent))

/-- A natural of 64 bits, if it is written as one. -/
def value (numeral : Numeral) : Json :=
  let whole := Nat.ofDigitChars 10 numeral.whole.text 0
  if numeral.negative = false ∧ numeral.fraction = none ∧ numeral.exponent = none ∧
      whole < UInt64.size then
    .natural (UInt64.ofNat whole)
  else .number

end Numeral

/-! ## Values -/

inductive Scalar where
  | null
  | bool (value : Bool)
  | number (numeral : Numeral)
  | string (quoted : Quoted)

namespace Scalar

def text : Scalar → List Char
  | null => ['n', 'u', 'l', 'l']
  | bool true => ['t', 'r', 'u', 'e']
  | bool false => ['f', 'a', 'l', 's', 'e']
  | number numeral => numeral.text
  | string quoted => quoted.text

def value : Scalar → Json
  | null => .null
  | bool value => .bool value
  | number numeral => numeral.value
  | string quoted => .string quoted.content

end Scalar

/-- A key with the blanks around it, and the colon. -/
structure Key where
  before : Blanks
  name : Quoted
  after : Blanks

def Key.text (key : Key) : List Char :=
  key.before.text ++ (key.name.text ++ (key.after.text ++ [':']))

mutual

/-- A value, with the blanks before it. -/
inductive Source where
  | scalar (before : Blanks) (scalar : Scalar)
  | emptyArray (before inside : Blanks)
  | array (before : Blanks) (items : Items)
  | emptyObject (before inside : Blanks)
  | object (before : Blanks) (members : Members)

/-- The items of an array, up to the bracket that closes it. -/
inductive Items where
  | last (item : Source) (after : Blanks)
  | more (item : Source) (after : Blanks) (rest : Items)

/-- The members of an object, up to the brace that closes it. -/
inductive Members where
  | last (key : Key) (value : Source) (after : Blanks)
  | more (key : Key) (value : Source) (after : Blanks) (rest : Members)

end

mutual

def Source.text : Source → List Char
  | .scalar before scalar => before.text ++ scalar.text
  | .emptyArray before inside => before.text ++ '[' :: (inside.text ++ [']'])
  | .array before items => before.text ++ '[' :: items.text
  | .emptyObject before inside => before.text ++ '{' :: (inside.text ++ ['}'])
  | .object before members => before.text ++ '{' :: members.text

def Items.text : Items → List Char
  | .last item after => item.text ++ (after.text ++ [']'])
  | .more item after rest => item.text ++ (after.text ++ ',' :: rest.text)

def Members.text : Members → List Char
  | .last key value after => key.text ++ (value.text ++ (after.text ++ ['}']))
  | .more key value after rest => key.text ++ (value.text ++ (after.text ++ ',' :: rest.text))

end

mutual

def Source.value : Source → Json
  | .scalar _ scalar => scalar.value
  | .emptyArray _ _ => .array []
  | .array _ items => .array items.values
  | .emptyObject _ _ => .object []
  | .object _ members => .object members.values

def Items.values : Items → List Json
  | .last item _ => [item.value]
  | .more item _ rest => item.value :: rest.values

def Members.values : Members → List (Option String × Json)
  | .last key value _ => [(key.name.content, value.value)]
  | .more key value _ rest => (key.name.content, value.value) :: rest.values

end

/-- A whole text: a value with blanks around it. -/
structure Written where
  source : Source
  after : Blanks

def Written.text (written : Written) : String :=
  String.ofList (written.source.text ++ written.after.text)

def Written.value (written : Written) : Json :=
  written.source.value

end IniSettings.Json
