import Predictive.Pattern.Fault

/-!
# Nesting in written patterns

Groups, repetitions, classes, and several things beside each other are levels of a written pattern.
A pattern that is nested too deep is refused. The fault is the first level, from outside inward and
from left to right, that lies below the limit.
-/

namespace Predictive.Pattern

/-- The first level below the limit, where `room` more levels are allowed. -/
def Members.tooDeep? (room : Nat) : Members → Option Span
  | bracket _ members _ => members.tooDeep? room
  | union a b => (a.tooDeep? room).orElse fun _ => b.tooDeep? room
  | combined _ a b => (a.tooDeep? room).orElse fun _ => b.tooDeep? room
  | level span members =>
    match room with
    | 0 => some span
    | room + 1 => members.tooDeep? room
  | _ => Option.none

@[inherit_doc Members.tooDeep?]
def Tree.tooDeep? (room : Nat) : Tree → Option Span
  | bracket _ members _ => members.tooDeep? room
  | group _ _ inner => inner.tooDeep? room
  | repeated _ _ inner => inner.tooDeep? room
  | seq a b => (a.tooDeep? room).orElse fun _ => b.tooDeep? room
  | either a b => (a.tooDeep? room).orElse fun _ => b.tooDeep? room
  | level span inner =>
    match room with
    | 0 => some span
    | room + 1 => inner.tooDeep? room
  | _ => none

/-- The tree itself, unless it is nested too deep. -/
def Tree.checked (tree : Tree) : Except Fault Tree :=
  match tree.tooDeep? depthLimit with
  | some span => .error { cause := .tooDeep, span }
  | none => .ok tree

end Predictive.Pattern
