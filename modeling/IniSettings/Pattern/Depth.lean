import IniSettings.Pattern.Basic
import IniSettings.Pattern.Mistake

/-!
# The depth of patterns

How deep the parts of a pattern lie in each other is limited. Groups, repetitions, classes, and
what stands side by side count as one level each.
-/

namespace IniSettings.Pattern

def deeper (depth : Nat) (span : Span) : Except Mistake Nat :=
  if depth < depthLimit then .ok (depth + 1) else .error (.at .tooDeep span)

mutual

def CharClass.checkDepth (depth : Nat) : CharClass → Except Mistake Unit
  | .empty _ => .ok ()
  | .primitive _ => .ok ()
  | .range .. => .ok ()
  | .ascii .. => .ok ()
  | .bracketed span _ inner => do
    let depth ← deeper depth span
    inner.checkDepth depth
  | .union span items => do
    let depth ← deeper depth span
    CharClass.checkDepths depth items
  | .combined operator left right => do
    let depth ← deeper depth (CharClass.combined operator left right).span
    left.checkDepth depth
    right.checkDepth depth

def CharClass.checkDepths (depth : Nat) : List CharClass → Except Mistake Unit
  | [] => .ok ()
  | item :: rest => do
    item.checkDepth depth
    CharClass.checkDepths depth rest

end

mutual

def Expression.checkDepth (depth : Nat) : Expression → Except Mistake Unit
  | .empty => .ok ()
  | .flags _ => .ok ()
  | .primitive _ => .ok ()
  | .bracketed content => content.checkDepth depth
  | .repetition span repeated => do
    let depth ← deeper depth span
    repeated.checkDepth depth
  | .group span _ content => do
    let depth ← deeper depth span
    content.checkDepth depth
  | .sequence span parts => do
    let depth ← deeper depth span
    Expression.checkDepths depth parts
  | .alternation span branches => do
    let depth ← deeper depth span
    Expression.checkDepths depth branches

def Expression.checkDepths (depth : Nat) : List Expression → Except Mistake Unit
  | [] => .ok ()
  | part :: rest => do
    part.checkDepth depth
    Expression.checkDepths depth rest

end

end IniSettings.Pattern
