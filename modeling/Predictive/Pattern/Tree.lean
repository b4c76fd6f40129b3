import Predictive.Pattern.Basic

/-!
# Written patterns

A written pattern as it stands, before the flags in it are taken into account. What can still turn
out to make no sense keeps its span, and so does every level of what is nested.
-/

namespace Predictive.Pattern

/-- A place in a written pattern. Lines and columns count from 1. -/
structure Spot where
  line : Nat
  column : Nat
deriving DecidableEq

namespace Spot

def after (spot : Spot) (c : Char) : Spot :=
  if c = '\n' then ⟨spot.line + 1, 1⟩ else ⟨spot.line, spot.column + 1⟩

end Spot

/-- The part of a written pattern from one place up to another. -/
structure Span where
  first : Spot
  last : Spot
deriving DecidableEq

inductive Flag
  | ignoreCase
  | manyLines
  | dotAll
  | unicode
  | byReturn
  | swapGreed
  | spaced
deriving DecidableEq

namespace Flag

def ofChar? : Char → Option Flag
  | 'i' => some ignoreCase
  | 'm' => some manyLines
  | 's' => some dotAll
  | 'u' => some unicode
  | 'R' => some byReturn
  | 'U' => some swapGreed
  | 'x' => some spaced
  | _ => none

end Flag

/-- Flags with what they are changed to. -/
abbrev Changes := List (Flag × Bool)

/-- A character. It may be written as a byte, by two hexadecimal digits. -/
structure Literal where
  char : Char
  asByte : Bool
  span : Span

inductive Shorthand
  | digit
  | blank
  | word

/-- A property of characters by its name, or by its name and its value. -/
structure Property where
  name : List Char
  value? : Option (List Char)

inductive Anchor
  | lineStart
  | lineEnd
  | textStart
  | textEnd
  | word (place : WordPlace)

/-- What is written without parts. -/
inductive Atom
  | literal (literal : Literal)
  | anyChar (span : Span)
  | shorthand (shorthand : Shorthand) (negated : Bool) (span : Span)
  | property (property : Property) (negated : Bool) (span : Span)
  | anchor (anchor : Anchor) (span : Span)

namespace Atom

def span : Atom → Span
  | literal l => l.span
  | anyChar span => span
  | shorthand _ _ span => span
  | property _ _ span => span
  | anchor _ span => span

end Atom

inductive SetOperation
  | meet
  | without
  | apart

/-- What is written between brackets. -/
inductive Members
  | none
  | literal (literal : Literal)
  | range (first last : Literal)
  | shorthand (shorthand : Shorthand) (negated : Bool) (span : Span)
  | property (property : Property) (negated : Bool) (span : Span)
  /-- A set of characters of ASCII with a name. -/
  | ascii (set : CharSet) (negated : Bool) (span : Span)
  | bracket (negated : Bool) (members : Members) (span : Span)
  | union (a b : Members)
  | combined (operation : SetOperation) (a b : Members)
  /-- Members that nest what is in them one level deeper. -/
  | level (span : Span) (members : Members)

inductive Tree
  | empty
  | atom (atom : Atom)
  | bracket (negated : Bool) (members : Members) (span : Span)
  | flags (changes : Changes)
  /-- What stands in parentheses. They may tell the group apart from what is around it. -/
  | group (apart : Bool) (changes : Changes) (inner : Tree)
  | repeated (least : Nat) (most? : Option Nat) (inner : Tree)
  | seq (a b : Tree)
  | either (a b : Tree)
  /-- A tree that nests what is in it one level deeper. -/
  | level (span : Span) (inner : Tree)

namespace Tree

/-- The trees of a list one after another; the list is in reverse order. -/
def ofReversed (trees : List Tree) : Tree :=
  trees.foldl (fun behind tree =>
    match behind with
    | empty => tree
    | _ => seq tree behind) empty

end Tree

end Predictive.Pattern
