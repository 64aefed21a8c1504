import IniSettings.Pattern.Place

/-!
# Patterns

A pattern is a regular expression for the value of a field. It is kept as far as its checks need
it: where its parts stand, and which of them depend on Unicode or on the case of letters.
-/

namespace IniSettings.Pattern

structure Literal where
  span : Span
  char : Char
  /-- It is written as a byte, with two digits of base sixteen. -/
  byte : Bool
deriving DecidableEq, Repr

inductive Primitive where
  | literal (written : Literal)
  | dot (span : Span)
  | assertion (span : Span) (word : Bool)
  | perl (span : Span) (negated : Bool)
  | property (span : Span)
deriving DecidableEq, Repr

def Primitive.span : Primitive → Span
  | .literal written => written.span
  | .dot span => span
  | .assertion span _ => span
  | .perl span _ => span
  | .property span => span

inductive ClassOperator where
  | intersection
  | difference
  | symmetricDifference
deriving DecidableEq, Repr

inductive CharClass where
  | empty (span : Span)
  | primitive (item : Primitive)
  | range (span : Span) (low high : Literal)
  | ascii (span : Span) (negated : Bool)
  | bracketed (span : Span) (negated : Bool) (inner : CharClass)
  | union (span : Span) (items : List CharClass)
  | combined (operator : ClassOperator) (left right : CharClass)

def CharClass.span : CharClass → Span
  | .empty span => span
  | .primitive item => item.span
  | .range span .. => span
  | .ascii span _ => span
  | .bracketed span .. => span
  | .union span _ => span
  | .combined _ left right => ⟨left.span.start, right.span.stop⟩

inductive Flag where
  | ignoreCase
  | multiLine
  | dotMatchesAll
  | lazy
  | unicode
  | carriageReturn
  | spaced
deriving DecidableEq, Repr

inductive FlagItem where
  | negation
  | flag (flag : Flag)
deriving DecidableEq, Repr

abbrev Flags := List FlagItem

def Flags.state? (flags : Flags) (flag : Flag) : Option Bool :=
  match flags.idxOf? (.flag flag) with
  | none => none
  | some place => some !(flags.take place).contains .negation

inductive Expression where
  | empty
  /-- Flags for what follows in the same group. -/
  | flags (items : Flags)
  | primitive (item : Primitive)
  | bracketed (content : CharClass)
  | repetition (span : Span) (repeated : Expression)
  | group (span : Span) (flags : Flags) (content : Expression)
  | sequence (span : Span) (parts : List Expression)
  | alternation (span : Span) (branches : List Expression)

def Expression.start? : Expression → Option Position
  | .empty => none
  | .flags _ => none
  | .primitive item => some item.span.start
  | .bracketed content => some content.span.start
  | .repetition span _ => some span.start
  | .group span .. => some span.start
  | .sequence span _ => some span.start
  | .alternation span _ => some span.start

end IniSettings.Pattern
