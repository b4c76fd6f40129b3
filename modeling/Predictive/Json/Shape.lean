import Predictive.Json.Number
import Predictive.Json.Quoted

/-!
# Values of a known shape

Where a value has another shape than expected, the fault names what was found. Of a number, a
string or a word the whole value has been read then; of an array or an object nothing, because its
kind is known from its first byte.
-/

namespace Predictive.Json.Reader

/-- Reports the value that comes next as one of the wrong type. -/
def wrongType {α : Type} (expected : String) : Reader α := do
  match ← peek? with
  | some 0x6E =>
    word "null".toList
    failHere (.wrongType .null expected)
  | some 0x74 =>
    word "true".toList
    failHere (.wrongType (.bool true) expected)
  | some 0x66 =>
    word "false".toList
    failHere (.wrongType (.bool false) expected)
  | some 0x22 =>
    let s ← string
    failHere (.wrongType (.string s) expected)
  | some 0x5B => failHere (.wrongType .array expected)
  | some 0x7B => failHere (.wrongType .object expected)
  | some byte =>
    if byte = 0x2D ∨ isDigit byte then
      let found ← number
      failHere (.wrongType found expected)
    else failAhead .expectedValue
  | none => failAhead .endInValue

/-- Takes an integer from 0 to below `2 ^ 64`. -/
def size : Reader Nat := do
  let expected := "usize"
  match ← peekSolid? with
  | none => failAhead .endInValue
  | some byte =>
    if byte = 0x2D ∨ isDigit byte then
      match ← number with
      | .integer (.ofNat n) => return n
      | .integer n => failHere (.wrongValue (.integer n) expected)
      | found => failHere (.wrongType found expected)
    else wrongType expected

def bool : Reader Bool := do
  match ← peekSolid? with
  | none => failAhead .endInValue
  | some 0x74 =>
    word "true".toList
    return true
  | some 0x66 =>
    word "false".toList
    return false
  | some _ => wrongType "a boolean"

def null : Reader Unit := do
  match ← peekSolid? with
  | none => failAhead .endInValue
  | some 0x6E => word "null".toList
  | some _ => wrongType "unit"

def variantName {α : Type} (variants : List (String × α)) : Reader α := do
  let name ← string
  match variants.lookup name with
  | some value => return value
  | none => failHere (.unknownVariant name (variants.map Prod.fst))

/-- Takes one of the given names, or an object with one of them as its only field and `null` as the
value of the field. -/
def variant {α : Type} (variants : List (String × α)) : Reader α := do
  match ← peekSolid? with
  | none => failAhead .endInValue
  | some 0x22 => variantName variants
  | some 0x7B =>
    skip
    let value ← match ← peekSolid? with
      | none => failAhead .endInObject
      | some 0x22 => variantName variants
      | some 0x7D => failAhead .expectedValue
      | some _ => failAhead .fieldNotString
    colon
    null
    match ← peekSolid? with
    | some 0x7D =>
      skip
      return value
    | some _ => failHere .expectedValue
    | none => failHere .endInObject
  | some _ => failAhead .expectedValue

/-- Reports a fault of a field: behind the blanks and the closing brace that may come after the
name. -/
def failBehindField {α : Type} (fault : Fault) : Reader α := do
  if (← peekSolid?) = some 0x7D then skip
  failHere fault

/-- Goes on to the next item of an array. The answer is whether there is one. -/
def nextItem (first : Bool) : Reader Bool := do
  match ← peekSolid? with
  | none => failAhead .endInArray
  | some 0x5D => return false
  | some 0x2C =>
    if first then return true
    skip
    match ← peekSolid? with
    | none => failAhead .endInValue
    | some 0x5D => failAhead .trailingComma
    | some _ => return true
  | some _ => if first then return true else failAhead .expectedCommaOrBracket

def endArray : Reader Unit := do
  match ← peekSolid? with
  | none => failAhead .endInArray
  | some 0x5D => skip
  | some 0x2C =>
    skip
    if (← peekSolid?) = some 0x5D then failAhead .trailingComma else failAhead .trailingCharacters
  | some _ => failAhead .trailingCharacters

/-- Goes on to the next field of an object and takes its name, if there is one. -/
def nextField (first : Bool) : Reader (Option String) := do
  match ← peekSolid? with
  | none => failAhead .endInObject
  | some 0x7D => return none
  | some byte =>
    if !first then
      if byte ≠ 0x2C then failAhead .expectedCommaOrBrace
      skip
    match ← peekSolid? with
    | none => failAhead .endInValue
    | some 0x22 => return some (← string)
    | some byte =>
      if byte = 0x7D then failAhead .trailingComma else failAhead .fieldNotString

def endObject : Reader Unit := do
  match ← peekSolid? with
  | none => failAhead .endInObject
  | some 0x7D => skip
  | some 0x2C => failAhead .trailingComma
  | some _ => failAhead .trailingCharacters

/-- Checks that nothing but blanks is left. -/
def endText : Reader Unit := do
  if (← peekSolid?).isSome then failAhead .trailingCharacters

end Predictive.Json.Reader
