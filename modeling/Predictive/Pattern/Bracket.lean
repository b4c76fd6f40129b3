import Predictive.Pattern.Escape

/-!
# Bracketed classes in written patterns

A class is written between brackets: characters, ranges, escapes, named sets of ASCII, and other
classes. Two signs in a row join what stands before them with what stands behind them; all such
operations are of one rank and go from left to right. A hyphen that cannot make a range, and a
closing bracket directly behind the opening one, stand for themselves.
-/

namespace Predictive.Pattern

/-- The sets of ASCII that have a name in brackets. -/
def namedSets : List (String × CharSet) :=
  [("alnum", .asciiAlphanumeric), ("alpha", .asciiLetter), ("ascii", .ascii),
    ("blank", .ofList ['\t', ' ']), ("cntrl", .union (.range '\x00' '\x1F') (.single '\x7F')),
    ("digit", .asciiDigit), ("graph", .range '!' '~'), ("lower", .asciiLower),
    ("print", .range ' ' '~'), ("punct", .without (.range '!' '~') .asciiAlphanumeric),
    ("space", .asciiBlank), ("upper", .asciiUpper), ("word", .asciiWord),
    ("xdigit", .unions [.asciiDigit, .range 'A' 'F', .range 'a' 'f'])]

/-- The members of a class that stand beside each other, up to an operation. -/
structure Row where
  members : Members := .none
  count : Nat := 0
  span : Span

namespace Row

/-- An empty row at a place. -/
def start (spot : Spot) : Row := { span := ⟨spot, spot⟩ }

def add (row : Row) (member : Members) (span : Span) : Row :=
  if row.count = 0 then ⟨member, 1, span⟩
  else ⟨.union row.members member, row.count + 1, ⟨row.span.first, span.last⟩⟩

/-- The members of a row. Several of them are a level of their own. -/
def all (row : Row) : Members :=
  if row.count < 2 then row.members else .level row.span row.members

end Row

/-- An operation, and what stands before it. -/
structure Pending where
  operation : SetOperation
  members : Members
  first : Spot

/-- What an operation makes of what stands before it and of the row behind it. -/
def Pending.apply (pending : Pending) (row : Row) : Members :=
  .level ⟨pending.first, row.span.last⟩ (.combined pending.operation pending.members row.all)

/-- All members up to a row, and the place where they start. -/
def combine (pending? : Option Pending) (row : Row) : Members × Spot :=
  match pending? with
  | some pending => (pending.apply row, pending.first)
  | none => (row.all, row.span.first)

namespace Reader

/-- Takes a named set if one comes next. -/
def namedSet? : Reader (Option (Members × Span)) := do
  let scan ← get
  if !(← take ['[', ':']) then return none
  let negated ← take ['^']
  let name ← run fun c => c != ':'
  let set? := namedSets.lookup (String.ofList name)
  if ← take [':', ']'] then
    if let some members := set? then
      let span ← spanFrom scan.spot
      return some (.ascii members negated span, span)
  set scan
  return none

/-- Takes a character or an escape. -/
def classAtom : Reader Atom := do
  match ← peek? with
  | some '\\' => escape
  | some c =>
    let span ← spanAhead
    skip
    return .literal ⟨c, false, span⟩
  | none => failHere .escapeUnended

def member (atom : Atom) : Reader Members :=
  match atom with
  | .literal l => return .literal l
  | .shorthand shorthand negated span => return .shorthand shorthand negated span
  | .property property negated span => return .property property negated span
  | .anyChar span => fail .classEscape span
  | .anchor _ span => fail .classEscape span

def rangeEnd (atom : Atom) : Reader Literal :=
  match atom with
  | .literal l => return l
  | other => fail .classRangeEnd other.span

/-- The next character behind a hyphen, with blanks and the sign of a comment passed over if the
scan is spaced. -/
def peekBehind? : Reader (Option Char) := do
  let scan ← get
  let rest := scan.rest.drop 1
  if !scan.spaced then return rest.head?
  match rest.dropWhile Text.isBlank with
  | '#' :: comment => return (comment.dropWhile Text.isBlank).head?
  | others => return others.head?

/-- Takes a single member or a range. `opening` is the span of the start of the class. -/
def memberOrRange (opening : Span) : Reader (Members × Span) := do
  let first ← classAtom
  skipBlanks
  match ← peek? with
  | none => fail .classUnclosed opening
  | some c =>
    let behind ← peekBehind?
    if c ≠ '-' ∨ behind = some ']' ∨ behind = some '-' then return (← member first, first.span)
    skipSolid
    if ← atEnd then fail .classUnclosed opening
    let last ← classAtom
    let low ← rangeEnd first
    let high ← rangeEnd last
    let span := Span.mk first.span.first last.span.last
    if high.char < low.char then fail .classRangeOrder span
    return (.range low high, span)

/-- Takes hyphens that stand for themselves. `first` is the place of the opening bracket. -/
def hyphens (first : Spot) : Nat → Row → Reader Row
  | 0, row => return row
  | n + 1, row => do
    if (← peek?) ≠ some '-' then return row
    let span ← spanAhead
    skipSolid
    if ← atEnd then fail .classUnclosed ⟨first, first⟩
    hyphens first n (row.add (.literal ⟨'-', false, span⟩) span)

/-- The start of a class: its span, whether it is negated, and the members that stand for
themselves only there. -/
structure Opening where
  span : Span
  negated : Bool
  row : Row

/-- Takes the start of a class. The opening bracket comes next. -/
def opening : Reader Opening := do
  let first ← spot
  skipSolid
  if ← atEnd then failFrom .classUnclosed first
  let negated := (← peek?) == some '^'
  if negated then
    skipSolid
    if ← atEnd then failFrom .classUnclosed first
  let row ← hyphens first (← get).rest.length (.start (← spot))
  if row.count = 0 ∧ (← peek?) = some ']' then
    let span ← spanAhead
    skipSolid
    if ← atEnd then failFrom .classUnclosed first
    return ⟨← spanFrom first, negated, row.add (.literal ⟨']', false, span⟩) span⟩
  return ⟨← spanFrom first, negated, row⟩

/-- Takes the signs of an operation if they come next. -/
def operation? : Reader (Option SetOperation) := do
  if ← take ['&', '&'] then return some .meet
  if ← take ['-', '-'] then return some .without
  if ← take ['~', '~'] then return some .apart
  return none

/-- Takes a class behind its start up to its closing bracket. -/
def members (opening : Span) : Nat → Option Pending → Row → Reader Members
  | 0, pending?, row => return (combine pending? row).1
  | n + 1, pending?, row => do
    skipBlanks
    match ← peek? with
    | none => fail .classUnclosed opening
    | some ']' =>
      skip
      return (combine pending? row).1
    | some '[' =>
      if let some (set, span) ← namedSet? then
        return ← members opening n pending? (row.add set span)
      let inner ← Reader.opening
      let all ← members inner.span n none inner.row
      let span ← spanFrom inner.span.first
      members opening n pending? (row.add (.level span (.bracket inner.negated all span)) span)
    | some _ =>
      if let some operation ← operation? then
        let (all, first) := combine pending? row
        return ← members opening n (some ⟨operation, all, first⟩) (.start (← spot))
      let (member, span) ← memberOrRange opening
      members opening n pending? (row.add member span)

/-- Takes a bracketed class. The opening bracket comes next. -/
def bracket : Reader Tree := do
  let start ← opening
  let all ← members start.span ((← get).rest.length + 1) none start.row
  let span ← spanFrom start.span.first
  return .level span (.bracket start.negated all span)

end Reader

end Predictive.Pattern
