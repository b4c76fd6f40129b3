import Predictive.Pattern.Fault

/-!
# Reading written patterns

A scan stands in a written pattern before the characters that are still to be read. A reader takes
something off the front, or reports a fault. While the scan is spaced, blanks stand for nothing,
and so do comments, which go from a `#` to the end of the line.
-/

namespace Predictive.Pattern

structure Scan where
  rest : List Char
  spot : Spot := ⟨1, 1⟩
  spaced : Bool := false
  /-- The names of groups so far, with their spans. -/
  names : List (List Char × Span) := []

namespace Scan

def next (scan : Scan) : Scan :=
  match scan.rest with
  | [] => scan
  | c :: rest => { scan with rest, spot := scan.spot.after c }

/-- The longest run of characters with a property, and the scan behind it. -/
def run (p : Char → Bool) (scan : Scan) : List Char × Scan :=
  let taken := scan.rest.takeWhile p
  (taken, { scan with
    rest := scan.rest.dropWhile p
    spot := taken.foldl Spot.after scan.spot })

/-- What is left behind blanks and comments, and the place where it starts. -/
def skipBlanks (spot : Spot) (inComment : Bool) : List Char → List Char × Spot
  | [] => ([], spot)
  | c :: rest =>
    if inComment then skipBlanks (spot.after c) (c ≠ '\n') rest
    else if Text.isBlank c then skipBlanks (spot.after c) false rest
    else if c = '#' then skipBlanks (spot.after c) true rest
    else (c :: rest, spot)

end Scan

abbrev Reader := StateT Scan (Except Fault)

namespace Reader

def peek? : Reader (Option Char) := do
  return (← get).rest.head?

def atEnd : Reader Bool := do
  return (← get).rest.isEmpty

def spot : Reader Spot := do
  return (← get).spot

def skip : Reader Unit :=
  modify Scan.next

/-- Passes over blanks and comments if the scan is spaced. -/
def skipBlanks : Reader Unit :=
  modify fun scan =>
    if scan.spaced then
      let (rest, spot) := Scan.skipBlanks scan.spot false scan.rest
      { scan with rest, spot }
    else scan

/-- Passes over a character and the blanks behind it. -/
def skipSolid : Reader Unit := do
  skip
  skipBlanks

/-- Takes the given characters if they come next. -/
def take (chars : List Char) : Reader Bool := do
  if chars.isPrefixOf (← get).rest then
    modify fun scan => chars.foldl (fun scan _ => scan.next) scan
    return true
  else return false

/-- Takes the longest run of characters with a property. -/
def run (p : Char → Bool) : Reader (List Char) :=
  modifyGet (Scan.run p)

/-- Takes the longest run of characters with a property, where blanks may stand behind each. -/
def solidRun (p : Char → Bool) : Reader (List Char) := do
  go (← get).rest.length
where
  go : Nat → Reader (List Char)
    | 0 => return []
    | n + 1 => do
      match ← peek? with
      | none => return []
      | some c =>
        if p c then
          skipSolid
          return c :: (← go n)
        else return []

/-- The span of the next character. -/
def spanAhead : Reader Span := do
  let scan ← get
  return ⟨scan.spot, scan.next.spot⟩

/-- The span from a place up to here. -/
def spanFrom (first : Spot) : Reader Span := do
  return ⟨first, ← spot⟩

def fail {α : Type} (cause : Cause) (span : Span) : Reader α :=
  throw { cause, span }

/-- Reports the next character. -/
def failAhead {α : Type} (cause : Cause) : Reader α := do
  fail cause (← spanAhead)

/-- Reports the place before the next character. -/
def failHere {α : Type} (cause : Cause) : Reader α := do
  fail cause (← spanFrom (← spot))

/-- Reports everything from a place up to here. -/
def failFrom {α : Type} (cause : Cause) (first : Spot) : Reader α := do
  fail cause (← spanFrom first)

end Reader

end Predictive.Pattern
