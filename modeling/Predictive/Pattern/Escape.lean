import Predictive.Pattern.Reader

/-!
# Escapes in written patterns

A backslash takes the special meaning from a sign, and gives one to some letters: single
characters, characters by their hexadecimal code, classes of characters, properties, and anchors.
No other letter and no digit may follow it.
-/

namespace Predictive.Pattern

def hexDigit? (c : Char) : Option Nat :=
  if c.isDigit then some (c.toNat - 0x30)
  else if 'a' ≤ c ∧ c ≤ 'f' then some (c.toNat - 0x57)
  else if 'A' ≤ c ∧ c ≤ 'F' then some (c.toNat - 0x37)
  else none

/-- The character with a code of hexadecimal digits, if there is one. -/
def charOfHex? (digits : List Char) : Option Char :=
  let code := digits.foldl (fun n c => 16 * n + (hexDigit? c).getD 0) 0
  if h : code.isValidChar then some (Char.ofNatAux code h) else none

namespace Reader

def hexDigits : Nat → Reader (List Char)
  | 0 => return []
  | n + 1 => do
    match ← peek? with
    | none => failHere .escapeUnended
    | some c =>
      if (hexDigit? c).isNone then failAhead .hexDigit
      skipSolid
      return c :: (← hexDigits n)

/-- Takes the digits between braces; the opening brace comes next. -/
def bracedHex : Reader Char := do
  let brace ← spot
  let first := (← spanAhead).last
  skipSolid
  let digits ← solidRun fun c => (hexDigit? c).isSome
  let last ← spot
  match ← peek? with
  | none => failFrom .escapeUnended brace
  | some '\x7d' =>
    skipSolid
    if digits.isEmpty then failFrom .hexEmpty brace
    match charOfHex? digits with
    | some c => return c
    | none => fail .hexInvalid ⟨first, last⟩
  | some _ => failAhead .hexDigit

/-- Takes a hexadecimal code with a number of digits, or in braces. The letter before it comes
next, and `first` is the place of the backslash. -/
def hexLiteral (first : Spot) (count : Nat) : Reader Literal := do
  skipSolid
  if (← peek?) = some '\x7b' then
    let char ← bracedHex
    return ⟨char, false, ← spanFrom first⟩
  let start ← spot
  let digits ← hexDigits count
  match charOfHex? digits with
  | some char => return ⟨char, count == 2, ← spanFrom first⟩
  | none => failFrom .hexInvalid start

/-- The parts of a text before and behind the first place where another text stands. -/
def cut? (mark : List Char) : List Char → Option (List Char × List Char)
  | [] => none
  | c :: rest =>
    if mark.isPrefixOf (c :: rest) then some ([], (c :: rest).drop mark.length)
    else (cut? mark rest).map fun parts => (c :: parts.1, parts.2)

/-- The property with a written name and value, and whether the signs between them negate it. -/
def propertyOfText (text : List Char) : Property × Bool :=
  match cut? ['!', '='] text with
  | some (name, value) => (⟨name, some value⟩, true)
  | none =>
    match (cut? [':'] text).orElse fun _ => cut? ['='] text with
    | some (name, value) => (⟨name, some value⟩, false)
    | none => (⟨text, none⟩, false)

/-- Takes a property. The letter before it comes next. -/
def property (first : Spot) (negated : Bool) : Reader Atom := do
  skipSolid
  match ← peek? with
  | none => failHere .escapeUnended
  | some '\x7b' =>
    skipSolid
    let text ← solidRun fun c => c != '\x7d'
    if ← atEnd then failHere .escapeUnended
    skip
    let (property, reversed) := propertyOfText text
    return .property property (negated != reversed) (← spanFrom first)
  | some '\\' => failAhead .propertyInvalid
  | some c =>
    skipSolid
    return .property ⟨[c], none⟩ negated (← spanFrom first)

def wordPlaces : List (String × WordPlace) :=
  [("start", .start), ("end", .finish), ("start-half", .noneBefore), ("end-half", .noneBehind)]

/-- Takes the braces that may follow the anchor at the edge of a word. Braces that start with
something else than a name are left for a repetition. -/
def wordPlace (first : Spot) : Reader WordPlace := do
  let scan ← get
  if scan.rest.head? ≠ some '\x7b' then return .edge
  skipSolid
  let isNameChar := fun c : Char => c.isAlpha || c == '-'
  let start ← spot
  match ← peek? with
  | none => failFrom .wordPlaceUnended first
  | some c =>
    if !isNameChar c then
      set scan
      return .edge
    let name ← solidRun isNameChar
    if (← peek?) ≠ some '\x7d' then failFrom .wordPlaceUnclosed scan.spot
    let span ← spanFrom start
    skip
    match wordPlaces.lookup (String.ofList name) with
    | some place => return place
    | none => fail .wordPlaceUnknown span

/-- The character that a letter stands for behind a backslash. -/
def controlOf? : Char → Option Char
  | 'a' => some '\x07'
  | 'f' => some '\x0C'
  | 't' => some '\t'
  | 'n' => some '\n'
  | 'r' => some '\r'
  | 'v' => some '\x0B'
  | _ => none

def shorthandOf? : Char → Option (Shorthand × Bool)
  | 'd' => some (.digit, false)
  | 's' => some (.blank, false)
  | 'w' => some (.word, false)
  | 'D' => some (.digit, true)
  | 'S' => some (.blank, true)
  | 'W' => some (.word, true)
  | _ => none

def anchorOf? : Char → Option Anchor
  | 'A' => some .textStart
  | 'z' => some .textEnd
  | 'B' => some (.word .noEdge)
  | '<' => some (.word .start)
  | '>' => some (.word .finish)
  | _ => none

/-- Whether a character stands for itself behind a backslash. -/
def isSign (c : Char) : Bool :=
  c.toNat < 0x80 && !c.isAlphanum && c != '<' && c != '>'

/-- Takes an escape of which the letter is no hexadecimal code and no property. -/
def shortEscape (first : Spot) (c : Char) : Reader Atom := do
  skip
  let span ← spanFrom first
  if isSign c then return .literal ⟨c, false, span⟩
  if c = 'b' then
    let place ← wordPlace first
    return .anchor (.word place) (← spanFrom first)
  match controlOf? c, shorthandOf? c, anchorOf? c with
  | some char, _, _ => return .literal ⟨char, false, span⟩
  | none, some (shorthand, negated), _ => return .shorthand shorthand negated span
  | none, none, some anchor => return .anchor anchor span
  | none, none, none => fail .escapeUnknown span

/-- Takes an escape. The backslash comes next. -/
def escape : Reader Atom := do
  let first ← spot
  skip
  match ← peek? with
  | none => failFrom .escapeUnended first
  | some 'x' => return .literal (← hexLiteral first 2)
  | some 'u' => return .literal (← hexLiteral first 4)
  | some 'U' => return .literal (← hexLiteral first 8)
  | some 'p' => property first false
  | some 'P' => property first true
  | some c =>
    if c.isDigit then fail .backreference ⟨first, (← spanAhead).last⟩
    shortEscape first c

end Reader

end Predictive.Pattern
