import IniSettings.Pattern.Basic
import IniSettings.Pattern.Mistake

/-!
# What patterns are supported

A pattern matches characters if Unicode is turned on, and bytes if it is turned off. The tables of
Unicode are not at hand, so properties, classes of one letter and ignoring case fail with Unicode.
Without it nothing may match a part of a character.
-/

namespace IniSettings.Pattern

structure Mode where
  ignoreCase : Bool
  unicode : Bool
deriving DecidableEq, Repr

namespace Mode

def initial : Mode :=
  ⟨false, true⟩

def apply (mode : Mode) (flags : Flags) : Mode :=
  ⟨(flags.state? .ignoreCase).getD mode.ignoreCase, (flags.state? .unicode).getD mode.unicode⟩

end Mode

/-! ## Characters -/

def Literal.checkByte (literal : Literal) (mode : Mode) : Except Mistake Unit :=
  if !mode.unicode && literal.byte && literal.char.toNat ≥ 0x80 then
    .error (.at .partialCharacter literal.span)
  else .ok ()

def Literal.check (literal : Literal) (mode : Mode) : Except Mistake Unit := do
  literal.checkByte mode
  if mode.unicode && mode.ignoreCase then throw (.at .noCases literal.span)

def Literal.checkMember (literal : Literal) (mode : Mode) : Except Mistake Unit := do
  literal.checkByte mode
  if !mode.unicode && literal.char.toNat ≥ 0x80 then throw (.at .unicodeOff literal.span)

def checkProperty (span : Span) (mode : Mode) : Except Mistake Unit :=
  .error (.at (if mode.unicode then .noProperties else .unicodeOff) span)

def checkPerl (span : Span) (negated : Bool) (mode : Mode) : Except Mistake Unit :=
  if mode.unicode then .error (.at .noPerlClasses span)
  else if negated then .error (.at .partialCharacter span)
  else .ok ()

def Primitive.check (mode : Mode) : Primitive → Except Mistake Unit
  | .literal written => written.check mode
  | .dot span => if mode.unicode then .ok () else .error (.at .partialCharacter span)
  | .assertion _ _ => .ok ()
  | .perl span negated => checkPerl span negated mode
  | .property span => checkProperty span mode

def Primitive.checkMember (mode : Mode) : Primitive → Except Mistake Unit
  | .literal written => written.checkMember mode
  | .perl span negated => checkPerl span negated mode
  | .property span => checkProperty span mode
  | _ => .ok ()

/-! ## Classes -/

/-- What a class holds, as far as ignoring case can depend on it: nothing and everything hold
each letter in both cases or in none. -/
inductive Extent where
  | nothing
  | everything
  | something
deriving DecidableEq, Repr

namespace Extent

def union : Extent → Extent → Extent
  | .nothing, extent => extent
  | extent, .nothing => extent
  | .everything, .everything => .everything
  | _, _ => .something

def complement : Extent → Extent
  | .nothing => .everything
  | .everything => .nothing
  | .something => .something

def combine : ClassOperator → Extent → Extent → Extent
  | .intersection, .everything, .everything => .everything
  | .intersection, _, _ => .nothing
  | .difference, .everything, .nothing => .everything
  | .difference, _, _ => .nothing
  | .symmetricDifference, left, right => if left = right then .nothing else .everything

/-- Ignoring the case of letters needs tables, unless the class holds nothing or everything. -/
def foldCase (extent : Extent) (mode : Mode) (span : Span) : Except Mistake Unit :=
  if mode.unicode && mode.ignoreCase && extent = .something then .error (.at .noCases span)
  else .ok ()

/-- Closes a class with that span, which may be negated. -/
def close (extent : Extent) (mode : Mode) (span : Span) (negated : Bool) :
    Except Mistake Extent := do
  extent.foldCase mode span
  if !mode.unicode && negated then throw (.at .partialCharacter span)
  return if negated then extent.complement else extent

end Extent

mutual

def CharClass.check (mode : Mode) : CharClass → Except Mistake Extent
  | .empty _ => .ok .nothing
  | .primitive item => do
    item.checkMember mode
    return .something
  | .range _ low high => do
    low.checkMember mode
    high.checkMember mode
    return .something
  | .ascii span negated => Extent.something.close mode span negated
  | .bracketed span negated inner => do
    let extent ← inner.check mode
    extent.close mode span negated
  | .union _ items => CharClass.checkEach mode .nothing items
  | .combined operator left right => do
    let first ← left.check mode
    let second ← right.check mode
    second.foldCase mode right.span
    first.foldCase mode left.span
    return Extent.combine operator first second

def CharClass.checkEach (mode : Mode) (extent : Extent) : List CharClass → Except Mistake Extent
  | [] => .ok extent
  | item :: rest => do
    let more ← item.check mode
    CharClass.checkEach mode (extent.union more) rest

end

/-! ## Expressions -/

mutual

def Expression.check (mode : Mode) : Expression → Except Mistake Mode
  | .empty => .ok mode
  | .flags items => .ok (mode.apply items)
  | .primitive item => do
    item.check mode
    return mode
  | .bracketed content => do
    let _ ← content.check mode
    return mode
  | .repetition _ repeated => repeated.check mode
  | .group _ items content => do
    let _ ← content.check (mode.apply items)
    return mode
  | .sequence _ parts => Expression.checkEach mode parts
  | .alternation _ branches => Expression.checkEach mode branches

def Expression.checkEach (mode : Mode) : List Expression → Except Mistake Mode
  | [] => .ok mode
  | part :: rest => do
    let mode ← part.check mode
    Expression.checkEach mode rest

end

mutual

/-- The expression looks for the bound of a word while Unicode is turned on. The mode after it is
answered too. -/
def Expression.findBoundary (mode : Mode) : Expression → Bool × Mode
  | .empty => (false, mode)
  | .flags items => (false, mode.apply items)
  | .primitive (.assertion _ word) => (word && mode.unicode, mode)
  | .primitive _ => (false, mode)
  | .bracketed _ => (false, mode)
  | .repetition _ repeated => repeated.findBoundary mode
  | .group _ items content => ((content.findBoundary (mode.apply items)).1, mode)
  | .sequence _ parts => Expression.findBoundaries mode parts
  | .alternation _ branches => Expression.findBoundaries mode branches

def Expression.findBoundaries (mode : Mode) : List Expression → Bool × Mode
  | [] => (false, mode)
  | part :: rest =>
    let (found, mode) := part.findBoundary mode
    let (more, mode) := Expression.findBoundaries mode rest
    (found || more, mode)

end

end IniSettings.Pattern
