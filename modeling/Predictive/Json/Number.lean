import Predictive.Json.Cursor

/-!
# Reading JSON numbers

A number without fraction and exponent is an integer when it fits into 64 bits, without or with a
sign. Every other number is a binary floating-point number. It is made of a significand, of which
as many digits count as fit into 64 bits, and a power of ten, by at most a few multiplications or
divisions; a number that grows beyond the greatest floating-point number is a fault. The negative
zero is a floating-point number.
-/

namespace Predictive.Json

def isDigit (byte : UInt8) : Bool := 0x30 ≤ byte && byte ≤ 0x39

def digitValue (byte : UInt8) : Nat := byte.toNat - 0x30

/-- The first number that does not fit into 64 bits. -/
def wordLimit : Nat := Nat.pow 2 64

/-- The greatest power of ten that a floating-point number is scaled by at once. -/
def greatestScale : Nat := 308

def powerOfTen (n : Nat) : Float := Float.ofScientific 1 false n

/-- Digits that were read into a number: the number, how many digits went into it, and the cursor
behind them. -/
structure Digits where
  value : Nat
  count : Nat
  cursor : Cursor

/-- Reads digits onto the end of `value`, up to the first that would make it reach `limit`. -/
def readDigits (limit value count : Nat) (place : Place) (rest : List UInt8) : Digits :=
  match rest with
  | [] => ⟨value, count, ⟨[], place⟩⟩
  | byte :: rest' =>
    if isDigit byte ∧ value * 10 + digitValue byte < limit then
      readDigits limit (value * 10 + digitValue byte) (count + 1) (place.after byte) rest'
    else ⟨value, count, ⟨rest, place⟩⟩

/-- Passes over digits; the value of the answer counts for nothing. -/
def passDigits (count : Nat) (place : Place) (rest : List UInt8) : Digits :=
  match rest with
  | [] => ⟨0, count, ⟨[], place⟩⟩
  | byte :: rest' =>
    if isDigit byte then passDigits (count + 1) (place.after byte) rest'
    else ⟨0, count, ⟨rest, place⟩⟩

/-- Multiplies or divides by a power of ten, or gives nothing when the result is too great. A
division by a power that is too great for one step is done in several. -/
def scaleFloat (x : Float) (exponent : Int) : Option Float :=
  if _small : exponent.natAbs ≤ greatestScale then
    if 0 ≤ exponent then
      let y := x * powerOfTen exponent.natAbs
      if y.isInf then none else some y
    else some (x / powerOfTen exponent.natAbs)
  else if x == 0.0 then some x
  else if _up : 0 ≤ exponent then none
  else scaleFloat (x / powerOfTen greatestScale) (exponent + greatestScale)
termination_by exponent.natAbs
decreasing_by
  unfold greatestScale at *
  omega

/-- The first exponent that is too great to be told from all greater ones. -/
def exponentLimit : Nat := Nat.pow 2 31

namespace Reader

/-- Takes digits, as many as fit under a limit, and gives the number and how many there were. -/
def digits (limit value : Nat) : Reader (Nat × Nat) := do
  let c ← get
  let d := readDigits limit value 0 c.place c.rest
  set d.cursor
  return (d.value, d.count)

def skipDigits : Reader Nat := do
  let c ← get
  let d := passDigits 0 c.place c.rest
  set d.cursor
  return d.count

def atDigit : Reader Bool := do
  return (← peek?).any isDigit

/-- The floating-point number of a sign, a significand and a power of ten. -/
def float (positive : Bool) (significand : Nat) (exponent : Int) : Reader Found := do
  match scaleFloat significand.toUInt64.toFloat exponent with
  | some x => return .float (if positive then x else -x)
  | none => failHere .numberOutOfRange

/-- Takes an exponent, the next byte being its letter. -/
def exponent (positive : Bool) (significand : Nat) (start : Int) : Reader Found := do
  skip
  let sign ← peek?
  if sign = some 0x2B ∨ sign = some 0x2D then skip
  let up := sign ≠ some 0x2D
  match ← next? with
  | none => failHere .endInValue
  | some first =>
    if !isDigit first then failHere .invalidNumber
    let (value, _) ← digits exponentLimit (digitValue first)
    if ← atDigit then
      skip
      if significand ≠ 0 ∧ up then failHere .numberOutOfRange
      let _ ← skipDigits
      return .float (if positive then 0.0 else -0.0)
    float positive significand (if up then start + value else start - value)

def atExponent : Reader Bool := do
  return (← peek?).any fun byte => byte = 0x65 ∨ byte = 0x45

/-- What follows the digits of a floating-point number: an exponent, or nothing. -/
def scaled (positive : Bool) (significand : Nat) (start : Int) : Reader Found := do
  if ← atExponent then exponent positive significand start else float positive significand start

/-- Takes a fraction, the next byte being its point. -/
def fraction (positive : Bool) (whole : Nat) (start : Int) : Reader Found := do
  skip
  let (significand, count) ← digits wordLimit whole
  let more ← skipDigits
  if count + more = 0 then
    if (← peek?).isSome then failAhead .invalidNumber else failAhead .endInValue
  scaled positive significand (start - count)

/-- The number whose digits before a point have been read, with a power of ten for the digits that
did not fit. -/
def afterInteger (positive : Bool) (value dropped : Nat) : Reader Found := do
  let byte ← peek?
  if byte = some 0x2E then fraction positive value dropped
  else if (← atExponent) || dropped != 0 then scaled positive value dropped
  else if positive then return .integer value
  else if value = 0 ∨ wordLimit / 2 < value then return .float (-value.toUInt64.toFloat)
  else return .integer (-value)

def unsigned (positive : Bool) : Reader Found := do
  match ← next? with
  | none => failHere .endInValue
  | some first =>
    if !isDigit first then failHere .invalidNumber
    if first = 0x30 then
      if ← atDigit then failAhead .invalidNumber
      afterInteger positive 0 0
    else
      let (value, _) ← digits wordLimit (digitValue first)
      let dropped ← skipDigits
      afterInteger positive value dropped

/-- Takes a number, the next byte being its sign or its first digit. -/
def number : Reader Found := do
  if (← peek?) = some 0x2D then
    skip
    unsigned false
  else unsigned true

end Reader

end Predictive.Json
