import Predictive.Json.Cursor

/-!
# Reading JSON strings

The bytes behind the opening quote are read one at a time; `Expecting` says what the next one may
be. Inside an escape of four hexadecimal digits the digits are collected before they are judged. A
leading surrogate has to be followed by an escape with a trailing one, and the two are one
character.
-/

namespace Predictive.Json

/-- What the next byte of a string may be. -/
inductive Expecting
  /-- A character, the start of an escape or the closing quote. -/
  | character
  | escape
  /-- The next of four digits. `digits` are those before it, and `high` is a leading surrogate. -/
  | digit (digits : List UInt8) (high : Option Nat)
  /-- The backslash of the escape behind a leading surrogate. -/
  | secondBackslash (high : Nat)
  /-- The letter of the escape behind a leading surrogate. -/
  | secondLetter (high : Nat)

def hexDigit? (byte : UInt8) : Option Nat :=
  let n := byte.toNat
  if 0x30 ≤ n ∧ n ≤ 0x39 then some (n - 0x30)
  else if 0x41 ≤ n ∧ n ≤ 0x46 then some (n - 0x37)
  else if 0x61 ≤ n ∧ n ≤ 0x66 then some (n - 0x57)
  else none

def hexNumber? (digits : List UInt8) : Option Nat :=
  digits.foldl (fun n? d => do
    let n ← n?
    let d ← hexDigit? d
    return 16 * n + d) (some 0)

def shortEscape? (byte : UInt8) : Option UInt8 :=
  match byte with
  | 0x22 => some 0x22
  | 0x5C => some 0x5C
  | 0x2F => some 0x2F
  | 0x62 => some 0x08
  | 0x66 => some 0x0C
  | 0x6E => some 0x0A
  | 0x72 => some 0x0D
  | 0x74 => some 0x09
  | _ => none

/-- The bytes of a character, the last one first. -/
def reversedBytes (code : Nat) : List UInt8 :=
  (String.ofList [Char.ofNat code]).toUTF8.toList.reverse

def isHighSurrogate (n : Nat) : Bool := 0xD800 ≤ n && n ≤ 0xDBFF

def isLowSurrogate (n : Nat) : Bool := 0xDC00 ≤ n && n ≤ 0xDFFF

/-- What follows four digits: more of an escape, a character, or a fault. -/
def afterDigits (digits : List UInt8) (high : Option Nat) :
    Except Fault (Expecting × List UInt8) :=
  match hexNumber? digits, high with
  | none, _ => .error .invalidEscape
  | some n, none =>
    if isLowSurrogate n then .error .loneSurrogate
    else if isHighSurrogate n then .ok (.secondBackslash n, [])
    else .ok (.character, reversedBytes n)
  | some n, some high =>
    if isLowSurrogate n then
      .ok (.character, reversedBytes (0x10000 + (high - 0xD800) * 0x400 + (n - 0xDC00)))
    else .error .loneSurrogate

/-- Reads the bytes of a string up to its closing quote. `read` holds those before, the last one
first. -/
def readBytes (expecting : Expecting) (read : List UInt8) (place : Place) :
    List UInt8 → Except ReadError (List UInt8 × Cursor)
  | [] => .error ⟨.endInString, place⟩
  | byte :: rest =>
    let behind := place.after byte
    match expecting with
    | .character =>
      if byte = 0x22 then .ok (read.reverse, ⟨rest, behind⟩)
      else if byte = 0x5C then readBytes .escape read behind rest
      else if byte < 0x20 then .error ⟨.controlCharacter, behind⟩
      else readBytes .character (byte :: read) behind rest
    | .escape =>
      if byte = 0x75 then readBytes (.digit [] none) read behind rest
      else
        match shortEscape? byte with
        | some b => readBytes .character (b :: read) behind rest
        | none => .error ⟨.invalidEscape, behind⟩
    | .digit digits high =>
      let digits := digits ++ [byte]
      if digits.length < 4 then readBytes (.digit digits high) read behind rest
      else
        match afterDigits digits high with
        | .ok (next, bytes) => readBytes next (bytes ++ read) behind rest
        | .error fault => .error ⟨fault, behind⟩
    | .secondBackslash high =>
      if byte = 0x5C then readBytes (.secondLetter high) read behind rest
      else .error ⟨.endInEscape, behind⟩
    | .secondLetter high =>
      if byte = 0x75 then readBytes (.digit [] (some high)) read behind rest
      else .error ⟨.endInEscape, behind⟩

namespace Reader

/-- Takes a string, the next byte being its opening quote. -/
def string : Reader String := do
  skip
  let c ← get
  match readBytes .character [] c.place c.rest with
  | .error e => throw e
  | .ok (bytes, c) =>
    set c
    return (String.fromUTF8? ⟨bytes.toArray⟩).getD ""

end Reader

end Predictive.Json
