import Predictive.Decimal.Notation
import Predictive.Text.Quoted

/-!
# Faults in JSON texts

What can be wrong with a JSON text that is read for a value of a known shape, and where. A place is
given by the number of the line, from 1, and the number of bytes of that line before it.
-/

namespace Predictive.Json

/-- What a text has where something else was expected. -/
inductive Found
  | null
  | bool (value : Bool)
  | integer (value : Int)
  | float (value : Float)
  | string (value : String)
  | array
  | object

namespace Found

def text : Found → String
  | null => "null"
  | bool true => "boolean `true`"
  | bool false => "boolean `false`"
  | integer n => "integer `" ++ toString n ++ "`"
  | float x => "floating point `" ++ Decimal.writeFloat Decimal.messageStyle x ++ "`"
  | string s => "string " ++ Text.quoted s
  | array => "sequence"
  | object => "map"

end Found

/-- Why a text is no JSON value, or not one of the expected shape. -/
inductive Fault
  | endInValue
  | endInString
  | endInArray
  | endInObject
  | expectedColon
  | expectedCommaOrBracket
  | expectedCommaOrBrace
  | expectedWord
  | expectedValue
  | invalidEscape
  | invalidNumber
  | numberOutOfRange
  | controlCharacter
  | fieldNotString
  | loneSurrogate
  | trailingComma
  | trailingCharacters
  | endInEscape
  | wrongType (found : Found) (expected : String)
  | wrongValue (found : Found) (expected : String)
  | unknownField (name : String) (known : List String)
  | unknownVariant (name : String) (known : List String)
  | duplicateField (name : String)

/-- The text ends too early, it is a value of another shape, or it is no JSON. -/
inductive FaultKind
  | ending
  | shape
  | form
deriving DecidableEq

namespace Fault

def kind : Fault → FaultKind
  | endInValue | endInString | endInArray | endInObject => .ending
  | wrongType _ _ | wrongValue _ _ | unknownField _ _ | unknownVariant _ _ | duplicateField _ =>
    .shape
  | _ => .form

def ticked (name : String) : String := "`" ++ name ++ "`"

/-- The names that would have been right. -/
def oneOf : List String → String
  | [a, b] => ticked a ++ " or " ++ ticked b
  | [a] => ticked a
  | names => "one of " ++ ", ".intercalate (names.map ticked)

def text : Fault → String
  | endInValue => "EOF while parsing a value"
  | endInString => "EOF while parsing a string"
  | endInArray => "EOF while parsing a list"
  | endInObject => "EOF while parsing an object"
  | expectedColon => "expected `:`"
  | expectedCommaOrBracket => "expected `,` or `]`"
  | expectedCommaOrBrace => "expected `,` or `\x7d`"
  | expectedWord => "expected ident"
  | expectedValue => "expected value"
  | invalidEscape => "invalid escape"
  | invalidNumber => "invalid number"
  | numberOutOfRange => "number out of range"
  | controlCharacter => "control character (\\u0000-\\u001F) found while parsing a string"
  | fieldNotString => "key must be a string"
  | loneSurrogate => "lone leading surrogate in hex escape"
  | trailingComma => "trailing comma"
  | trailingCharacters => "trailing characters"
  | endInEscape => "unexpected end of hex escape"
  | wrongType found expected => "invalid type: " ++ found.text ++ ", expected " ++ expected
  | wrongValue found expected => "invalid value: " ++ found.text ++ ", expected " ++ expected
  | unknownField name known => "unknown field " ++ ticked name ++ ", expected " ++ oneOf known
  | unknownVariant name known => "unknown variant " ++ ticked name ++ ", expected " ++ oneOf known
  | duplicateField name => "duplicate field " ++ ticked name

end Fault

structure Place where
  line : Nat
  column : Nat
deriving DecidableEq

namespace Place

def after (p : Place) (byte : UInt8) : Place :=
  if byte = 0x0A then ⟨p.line + 1, 0⟩ else ⟨p.line, p.column + 1⟩

end Place

structure ReadError where
  fault : Fault
  place : Place

namespace ReadError

def message (e : ReadError) : String :=
  e.fault.text ++ " at line " ++ toString e.place.line ++ " column " ++ toString e.place.column

end ReadError

end Predictive.Json
