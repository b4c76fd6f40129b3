import Predictive.CharSet.Edges

/-!
# Sets of characters in bytes

UTF-8 writes a code point in one byte, or in a first byte and up to three more, which carry six
bits each. So the code points of a stretch are written by a few sequences of ranges of bytes, in
each of which any byte of a range goes with any bytes of the others.
-/

namespace Predictive.CharSet

structure ByteRange where
  first : Nat
  last : Nat
deriving DecidableEq

abbrev ByteSequence := List ByteRange

/-- The bytes that may stand behind the first one of a code point. -/
def furtherByte : ByteRange := ⟨0x80, 0xBF⟩

/-- The sequences for the numbers from `a` up to `b`, each in a byte and a number of further ones.
`mark` is what the first byte has besides the highest bits of the number. -/
def byteSequences (mark : Nat) : Nat → Nat → Nat → List ByteSequence
  | 0, a, b => [[⟨mark + a, mark + b⟩]]
  | further + 1, a, b =>
    let unit := 64 ^ (further + 1)
    let behind := fun digit a b =>
      (byteSequences 0x80 further a b).map fun rest => ⟨mark + digit, mark + digit⟩ :: rest
    let first := a / unit
    let last := b / unit
    let fromStart := a % unit = 0
    let toEnd := b % unit = unit - 1
    if first = last ∧ ¬(fromStart ∧ toEnd) then behind first (a % unit) (b % unit)
    else
      let low := if fromStart then first else first + 1
      let high := if toEnd then last + 1 else last
      (if fromStart then [] else behind first (a % unit) (unit - 1)) ++
        (if low < high then
          [⟨mark + low, mark + (high - 1)⟩ :: List.replicate (further + 1) furtherByte]
        else []) ++
        if toEnd then [] else behind last 0 (b % unit)

/-- Code points that are written alike. -/
structure Writing where
  first : Nat
  last : Nat
  mark : Nat
  further : Nat

def writings : List Writing :=
  [⟨0x00, 0x7F, 0x00, 0⟩, ⟨0x80, 0x7FF, 0xC0, 1⟩, ⟨0x800, 0xD7FF, 0xE0, 2⟩,
    ⟨0xE000, 0xFFFF, 0xE0, 2⟩, ⟨0x10000, 0x10FFFF, 0xF0, 3⟩]

/-- The sequences for stretches of code points. The surrogates are not written. -/
def utf8 (stretches : List Text.CodeRun) : List ByteSequence :=
  stretches.flatMap fun r =>
    writings.flatMap fun w =>
      let first := max r.first w.first
      let last := min r.last w.last
      if first ≤ last then byteSequences w.mark w.further first last else []

end Predictive.CharSet
