import Predictive.Json.Fault

/-!
# Reading JSON from bytes

A cursor stands in a text before the bytes that are still to be read. A reader takes a value off
the front, or reports a fault. A fault is reported at one of two places: `failHere` behind what has
been read, and `failAhead` behind the next byte, when that byte was only looked at. A text that is
at its end has no next byte, so there the two places are the same.
-/

namespace Predictive.Json

structure Cursor where
  rest : List UInt8
  place : Place

namespace Cursor

def ofString (s : String) : Cursor := ⟨s.toUTF8.toList, ⟨1, 0⟩⟩

def next (c : Cursor) : Cursor :=
  match c.rest with
  | [] => c
  | byte :: rest => ⟨rest, c.place.after byte⟩

/-- The cursor before the first of some bytes that is no blank. -/
def skipBlanks (rest : List UInt8) (place : Place) : Cursor :=
  match rest with
  | [] => ⟨[], place⟩
  | byte :: rest' =>
    if byte = 0x20 ∨ byte = 0x0A ∨ byte = 0x09 ∨ byte = 0x0D then
      skipBlanks rest' (place.after byte)
    else ⟨rest, place⟩

end Cursor

/-- Takes a value off the front of a text. -/
abbrev Reader := StateT Cursor (Except ReadError)

namespace Reader

/-- Reports a fault behind what has been read. -/
def failHere {α : Type} (fault : Fault) : Reader α := do
  throw ⟨fault, (← get).place⟩

/-- Reports a fault behind the next byte. -/
def failAhead {α : Type} (fault : Fault) : Reader α := do
  throw ⟨fault, (← get).next.place⟩

def peek? : Reader (Option UInt8) := do
  return (← get).rest.head?

def skip : Reader Unit :=
  modify Cursor.next

/-- Takes the next byte and gives it. -/
def next? : Reader (Option UInt8) := do
  let byte ← peek?
  skip
  return byte

def skipBlanks : Reader Unit :=
  modify fun c => Cursor.skipBlanks c.rest c.place

/-- The next byte that is no blank. -/
def peekSolid? : Reader (Option UInt8) := do
  skipBlanks
  peek?

def word : List Char → Reader Unit
  | [] => return ()
  | c :: rest => do
    match ← next? with
    | none => failHere .endInValue
    | some byte => if byte = c.toNat.toUInt8 then word rest else failHere .expectedWord

/-- Takes a colon, with blanks before it. -/
def colon : Reader Unit := do
  match ← peekSolid? with
  | some 0x3A => skip
  | some _ => failAhead .expectedColon
  | none => failAhead .endInObject

end Reader

end Predictive.Json
