import Predictive.Pattern.Tree
import Predictive.Text.Line

/-!
# Faults in written patterns

What can be wrong with a written pattern, and the report of it: the pattern with carets below the
part that is at fault, and below the earlier part that it contradicts, if there is one. The lines
of a pattern of several lines are numbered; of a part that goes over several lines only its ends
are given.
-/

namespace Predictive.Pattern

inductive Cause
  | classEscape
  | classRangeOrder
  | classRangeEnd
  | classUnclosed
  | decimalInvalid
  | hexEmpty
  | hexInvalid
  | hexDigit
  | escapeUnended
  | escapeUnknown
  | negationDangling
  | flagDuplicate
  | negationRepeated
  | flagsUnended
  | flagUnknown
  | nameDuplicate
  | nameEmpty
  | nameInvalid
  | nameUnclosed
  | groupUnclosed
  | groupUnopened
  | countOrder
  | countEmpty
  | countUnclosed
  | nothingRepeated
  | tooDeep
  | wordPlaceUnclosed
  | wordPlaceUnknown
  | wordPlaceUnended
  | propertyInvalid
  | backreference
  | lookAround
  | notAscii
  | notUtf8
  | propertyUnknown
  | valueUnknown
deriving DecidableEq

/-- How many levels deep a pattern may be nested. -/
def depthLimit : Nat := 250

namespace Cause

def message : Cause → String
  | classEscape => "invalid escape sequence found in character class"
  | classRangeOrder => "invalid character class range, the start must be <= the end"
  | classRangeEnd => "invalid range boundary, must be a literal"
  | classUnclosed => "unclosed character class"
  | decimalInvalid => "decimal literal invalid"
  | hexEmpty => "hexadecimal literal empty"
  | hexInvalid => "hexadecimal literal is not a Unicode scalar value"
  | hexDigit => "invalid hexadecimal digit"
  | escapeUnended => "incomplete escape sequence, reached end of pattern prematurely"
  | escapeUnknown => "unrecognized escape sequence"
  | negationDangling => "dangling flag negation operator"
  | flagDuplicate => "duplicate flag"
  | negationRepeated => "flag negation operator repeated"
  | flagsUnended => "expected flag but got end of regex"
  | flagUnknown => "unrecognized flag"
  | nameDuplicate => "duplicate capture group name"
  | nameEmpty => "empty capture group name"
  | nameInvalid => "invalid capture group character"
  | nameUnclosed => "unclosed capture group name"
  | groupUnclosed => "unclosed group"
  | groupUnopened => "unopened group"
  | countOrder => "invalid repetition count range, the start must be <= the end"
  | countEmpty => "repetition quantifier expects a valid decimal"
  | countUnclosed => "unclosed counted repetition"
  | nothingRepeated => "repetition operator missing expression"
  | tooDeep =>
    "exceed the maximum number of nested parentheses/brackets (" ++ toString depthLimit ++ ")"
  | wordPlaceUnclosed =>
    "special word boundary assertion is either unclosed or contains an invalid character"
  | wordPlaceUnknown =>
    "unrecognized special word boundary assertion, valid choices are: start, end, start-half or " ++
      "end-half"
  | wordPlaceUnended =>
    "found either the beginning of a special word boundary or a bounded repetition on a \\b " ++
      "with an opening brace, but no closing brace"
  | propertyInvalid => "invalid Unicode character class"
  | backreference => "backreferences are not supported"
  | lookAround => "look-around, including look-ahead and look-behind, is not supported"
  | notAscii => "Unicode not allowed here"
  | notUtf8 => "pattern can match invalid UTF-8"
  | propertyUnknown => "Unicode property not found"
  | valueUnknown => "Unicode property value not found"

end Cause

structure Fault where
  cause : Cause
  span : Span
  /-- An earlier part that the part at fault contradicts. -/
  earlier? : Option Span := none

namespace Fault

def spans (fault : Fault) : List Span := fault.earlier?.toList ++ [fault.span]

/-- How many columns the line numbers take. A pattern of one line has none. -/
def numberWidth (pattern : List Char) : Nat :=
  let count := pattern.count '\n' + 1
  if count = 1 then 0 else (Nat.toDigits 10 count).length

/-- The carets below a line. -/
def carets (spans : List Span) : List Char :=
  spans.foldl (fun line span =>
    line ++ List.replicate (span.first.column - 1 - line.length) ' ' ++
      List.replicate (max 1 (span.last.column - span.first.column)) '^') []

/-- A line of the pattern, with a line of carets below it if a part of it is at fault. -/
def reportLine (fault : Fault) (width number : Nat) (line : List Char) : List Char :=
  let digits := Nat.toDigits 10 number
  let margin :=
    if width = 0 then List.replicate 4 ' '
    else List.replicate (width - digits.length) ' ' ++ digits ++ [':', ' ']
  let marked := fault.spans.filter fun s => s.first.line = number && s.last.line = number
  margin ++ line ++ ['\n'] ++
    if marked.isEmpty then []
    else List.replicate margin.length ' ' ++ carets marked ++ ['\n']

def reportLines (fault : Fault) (width : Nat) : Nat → List (List Char) → List Char
  | _, [] => []
  | number, line :: rest =>
    reportLine fault width number line ++ reportLines fault width (number + 1) rest

/-- The ends of a part that goes over several lines. -/
def ends (span : Span) : String :=
  "on line " ++ toString span.first.line ++ " (column " ++ toString span.first.column ++
    ") through line " ++ toString span.last.line ++ " (column " ++
    toString (span.last.column - 1) ++ ")\n"

def report (fault : Fault) (pattern : List Char) : String :=
  let body := String.ofList (reportLines fault (numberWidth pattern) 1 (Text.lines pattern))
  let rule := if pattern.contains '\n' then String.ofList (List.replicate 79 '~' ++ ['\n']) else ""
  let long := fault.spans.filter fun s => s.first.line ≠ s.last.line
  "regex parse error:\n" ++ rule ++ body ++ rule ++ String.join (long.map ends) ++ "error: " ++
    fault.cause.message

end Fault

end Predictive.Pattern
