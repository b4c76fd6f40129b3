import Predictive.CharSet.Utf8
import Predictive.Pattern.Basic

/-!
# Machines of patterns

A pattern is searched for by two machines: one reads the bytes of a text forward and finds where
pieces end, the other reads them backward and finds where they start. A machine is measured by the
space that its states take. States have a size of their own, and grow by every way that leads on
from them where there is more than one. A pattern with a machine over the limit is refused.
-/

namespace Predictive

inductive Direction
  | forward
  | backward
deriving DecidableEq

namespace Machine

/-- Ten mebibytes. -/
def limit : Nat := 0xA00000

def stateSize : Nat := 32

/-- A way that leads on over a range of bytes. -/
def rangeSize : Nat := 8

/-- A way that leads on over nothing. -/
def branchSize : Nat := 4

/-- The states around the pattern itself. -/
def frameSize : Direction → Nat
  | .forward => 208
  | .backward => 144

end Machine

namespace CharSet

open Machine

/-- How far two sequences are alike. -/
def commonLength : ByteSequence → ByteSequence → Nat
  | a :: as, b :: bs => if a = b then commonLength as bs + 1 else 0
  | _, _ => 0

/-- How many beginnings sequences in ascending order have. -/
def beginnings (before : ByteSequence) : List ByteSequence → Nat
  | [] => 0
  | s :: rest => s.length - commonLength before s + beginnings s rest

/-- What may follow the first bytes of sequences in ascending order, for each range of them. -/
def continuations (sequences : List ByteSequence) : List (List ByteSequence) :=
  (sequences.splitBy fun s t => s.head? == t.head?).map fun group => group.map List.tail

/-- The states in which at least a byte is left of some sequences, over a number of bytes: each is
told by what may follow, and there is only one for the same. -/
def forwardStates : Nat → List (List ByteSequence) → List (List ByteSequence)
  | 0, _ => []
  | n + 1, states =>
    let next := (states.flatMap continuations).filter fun state => state != [[]]
    states ++ forwardStates n next.eraseDups

/-- The size of the states for a character that is written in several ways. -/
def sequencesSize (direction : Direction) (sequences : List ByteSequence) : Nat :=
  match direction with
  | .forward =>
    -- A code point takes four bytes at most.
    let states := (forwardStates 4 [sequences]).eraseDups
    states.foldl (fun size state => size + stateSize + rangeSize * (continuations state).length)
      stateSize
  | .backward =>
    2 * stateSize + branchSize * sequences.length + stateSize * beginnings [] sequences

/-- The size of the states for a character of a set. A single character is written in one way, and
characters that take a byte each are all in one state. -/
def machineSize (direction : Direction) (set : CharSet) : Nat :=
  let sequences := utf8 (stretches set.edges)
  let single? := sequences.head?.filter fun s =>
    sequences.length == 1 && s.all fun r => r.first == r.last
  match single? with
  | some s => stateSize * s.length
  | Option.none =>
    if sequences.all fun s => s.length = 1 then 2 * stateSize + rangeSize * sequences.length
    else sequencesSize direction sequences

end CharSet

namespace Pattern

open Machine

/-- Whether only the empty text is a piece. -/
def isVoid : Pattern → Bool
  | empty => true
  | one _ => false
  | look _ => true
  | seq p q => p.isVoid && q.isVoid
  | either p q => p.isVoid && q.isVoid
  | group p => p.isVoid
  | repeated _ most? p => p.isVoid || most? == some 0

/-- Whether every piece has a character. -/
def isSolid : Pattern → Bool
  | empty => false
  | one _ => true
  | look _ => false
  | seq p q => p.isSolid || q.isSolid
  | either p q => p.isSolid && q.isSolid
  | group p => p.isSolid
  | repeated least _ p => 0 < least && p.isSolid

/-- Whether a pattern has no states beside others. -/
def isBlank : Pattern → Bool
  | empty => true
  | seq p q => p.isBlank && q.isBlank
  | repeated least most? p => most? == some 0 || (0 < least && p.isBlank)
  | _ => false

/-- The set of which a pattern describes the characters, if that is all. -/
def set? : Pattern → Option CharSet
  | one set => some set
  | either p q => do return .union (← p.set?) (← q.set?)
  | _ => none

/-- The size of a repetition of a pattern that has the given size. A pattern of which only the
empty text is a piece is not repeated. -/
def repetitionSize (p : Pattern) (size least : Nat) (most? : Option Nat) : Nat :=
  let least := if p.isVoid then min least 1 else least
  let most? := if p.isVoid then some (min (most?.getD 1) 1) else most?
  let choice := stateSize + 2 * branchSize
  match most? with
  | some most =>
    if least = most then if most = 0 then stateSize else most * size
    else if most = 1 then size + choice + stateSize
    else
      (if least = 0 then stateSize else least * size) + stateSize + (most - least) * (size + choice)
  | none =>
    if 0 < least then least * size + choice
    else if p.isSolid then size + choice
    else size + 2 * choice + stateSize

/-- The size of the states for a pattern: on its own, and as one of several alternatives. -/
def sizes (direction : Direction) : Pattern → Nat × Nat
  | empty => (stateSize, stateSize + branchSize)
  | one set =>
    let size := set.machineSize direction
    (size, size + branchSize)
  | look _ => (stateSize, stateSize + branchSize)
  | seq p q =>
    let size :=
      if p.isBlank then (q.sizes direction).1
      else if q.isBlank then (p.sizes direction).1
      else (p.sizes direction).1 + (q.sizes direction).1
    (size, size + branchSize)
  | either p q =>
    let branches := (p.sizes direction).2 + (q.sizes direction).2
    match p.set?, q.set? with
    | some a, some b => ((CharSet.union a b).machineSize direction, branches)
    | _, _ => (2 * stateSize + branches, branches)
  | group p =>
    let size := (p.sizes direction).1 + if direction = .forward then 2 * stateSize else 0
    (size, size + branchSize)
  | repeated least most? p =>
    let size := p.repetitionSize (p.sizes direction).1 least most?
    (size, size + branchSize)

/-- The size of the machine for a pattern. -/
def machineSize (direction : Direction) (p : Pattern) : Nat :=
  frameSize direction + (p.sizes direction).1

/-- Whether both machines of a pattern keep to the limit. -/
def isSmall (p : Pattern) : Bool :=
  p.machineSize .forward ≤ limit && p.machineSize .backward ≤ limit

end Pattern

end Predictive
