import Predictive.CharSet.Property
import Predictive.Pattern.Bracket

/-!
# Groups and repetitions in written patterns

A pattern is written as alternatives between bars, each of which is a sequence of items. An item
may be repeated any number of times, or a number of times that stands in braces; a question mark
behind a repetition changes nothing in what the pattern describes. A group stands in parentheses.
It may have a name, and it may change flags for what is in it; flags in parentheses alone are
changed up to the end of the group around them.
-/

namespace Predictive.Pattern

def isNameStart (c : Char) : Bool :=
  c = '_' || CharSet.alphabetic.has c

def isNameChar (c : Char) : Bool :=
  c = '_' || c = '.' || c = '[' || c = ']' || CharSet.alphanumeric.has c

/-- A flag between the parentheses of a group, or the sign that negates those behind it. -/
structure FlagItem where
  flag? : Option Flag
  span : Span

/-- What flags are changed to. -/
def changesOf (on : Bool) : List FlagItem → Changes
  | [] => []
  | ⟨some flag, _⟩ :: rest => (flag, on) :: changesOf on rest
  | ⟨none, _⟩ :: rest => changesOf false rest

/-- What the opening parenthesis starts. -/
inductive GroupStart
  | flags (changes : Changes)
  | group (apart : Bool) (changes : Changes) (span : Span)

/-- A part of an alternative, and the place where it starts. -/
structure Item where
  tree : Tree
  first : Spot

/-- What has been read of a group, or of the whole pattern. -/
structure Content where
  first : Spot
  /-- The alternatives before the last bar, the last one first. -/
  before : List Tree := []
  /-- Where the alternative behind the last bar starts. -/
  start : Spot := first
  /-- The items of that alternative, the last one first. -/
  items : List Item := []

namespace Content

def add (content : Content) (tree : Tree) (first : Spot) : Content :=
  { content with items := ⟨tree, first⟩ :: content.items }

/-- The last alternative, which ends at a place. Several items are a level of their own. -/
def alternative (content : Content) (last : Spot) : Tree :=
  let tree := Tree.ofReversed (content.items.map Item.tree)
  if content.items.length < 2 then tree else .level ⟨content.start, last⟩ tree

/-- All alternatives. Several of them are a level of their own. -/
def tree (content : Content) (last : Spot) : Tree :=
  let final := content.alternative last
  if content.before.isEmpty then final
  else
    .level ⟨content.first, last⟩
      (content.before.foldl (fun behind tree => .either tree behind) final)

/-- Takes in a bar at a place. `start` is the place behind it. -/
def bar (content : Content) (last start : Spot) : Content :=
  { first := content.first, before := content.alternative last :: content.before, start }

end Content

namespace Reader

/-- Takes the name of a group and the sign behind it. -/
def groupName : Reader Unit := do
  let first ← spot
  let name ← match ← peek? with
    | some c => if isNameStart c then run isNameChar else pure []
    | none => pure []
  let span ← spanFrom first
  match ← peek? with
  | none => failHere .nameUnclosed
  | some '>' =>
    skip
    if name.isEmpty then fail .nameEmpty span
    if let some earlier := (← get).names.lookup name then
      throw { cause := .nameDuplicate, span, earlier? := some earlier }
    modify fun scan => { scan with names := scan.names ++ [(name, span)] }
  | some _ => failAhead .nameInvalid

/-- Takes flags up to the colon or the parenthesis behind them. -/
def flagItems : Nat → List FlagItem → Reader (List FlagItem)
  | 0, items => return items
  | n + 1, items => do
    match ← peek? with
    | none => failHere .flagsUnended
    | some c =>
      if c = ':' ∨ c = ')' then
        match items.getLast? with
        | some ⟨none, span⟩ => fail .negationDangling span
        | _ => return items
      let span ← spanAhead
      let flag? := Flag.ofChar? c
      if c ≠ '-' ∧ flag?.isNone then fail .flagUnknown span
      if let some earlier := items.find? fun item => item.flag? == flag? then
        let cause := if c = '-' then Cause.negationRepeated else .flagDuplicate
        throw { cause, span, earlier? := some earlier.span }
      skip
      flagItems n (items ++ [⟨flag?, span⟩])

/-- Takes the start of a group, or flags in parentheses. The opening parenthesis comes next. -/
def groupStart : Reader GroupStart := do
  let parenthesis ← spanAhead
  skipSolid
  for sign in ["?=", "?!", "?<=", "?<!"] do
    if ← take sign.toList then failFrom .lookAround parenthesis.first
  let inner ← spot
  if (← take "?P<".toList) || (← take "?<".toList) then
    groupName
    return .group true [] parenthesis
  if !(← take ['?']) then return .group true [] parenthesis
  if ← atEnd then fail .groupUnclosed parenthesis
  let items ← flagItems ((← get).rest.length + 1) []
  let changes := changesOf true items
  let closed ← take [')']
  if closed then
    if items.isEmpty then fail .nothingRepeated ⟨inner, inner⟩
    return .flags changes
  skip
  return .group false changes parenthesis

/-- Takes a number, with blanks around it. The answer keeps a fault for later. -/
def decimal : Reader (Except Fault Nat) := do
  let _ ← run Text.isBlank
  let first ← spot
  let digits ← solidRun Char.isDigit
  let span ← spanFrom first
  let _ ← run Text.isBlank
  if digits.isEmpty then return .error { cause := .countEmpty, span }
  let n := digits.foldl (fun n c => 10 * n + (c.toNat - 0x30)) 0
  if n < 0x100000000 then return .ok n else return .error { cause := .decimalInvalid, span }

def ofExcept {α : Type} (result : Except Fault α) : Reader α :=
  match result with
  | .ok a => return a
  | .error fault => throw fault

/-- Takes the question mark that may stand behind a repetition. -/
def lazySign : Reader Unit := do
  let _ ← take ['?']

/-- Takes the numbers of a repetition behind its opening brace, up to the closing one. -/
def counts (brace : Spot) : Reader (Nat × Option Nat) := do
  if ← atEnd then failFrom .countUnclosed brace
  let least ← decimal
  if ← atEnd then failFrom .countUnclosed brace
  if (← peek?) ≠ some ',' then
    let n ← ofExcept least
    return (n, some n)
  skipSolid
  if ← atEnd then failFrom .countUnclosed brace
  let least ← ofExcept least
  if (← peek?) = some '\x7d' then return (least, none)
  return (least, some (← ofExcept (← decimal)))

/-- Takes a repetition with numbers. The opening brace comes next. -/
def counted (item : Tree) : Reader Tree := do
  let brace ← spot
  skipSolid
  let (least, most?) ← counts brace
  if (← peek?) ≠ some '\x7d' then failFrom .countUnclosed brace
  skipSolid
  lazySign
  if most?.any fun most => most < least then failFrom .countOrder brace
  return .repeated least most? item

/-- The numbers of a repetition that is written as one sign. -/
def signCounts? : Char → Option (Nat × Option Nat)
  | '?' => some (0, some 1)
  | '*' => some (0, none)
  | '+' => some (1, none)
  | _ => none

/-- Takes a repetition of the last item. -/
def repetition (content : Content) : Reader Content := do
  match content.items with
  | [] => failHere .nothingRepeated
  | ⟨.flags _, _⟩ :: _ => failHere .nothingRepeated
  | ⟨item, first⟩ :: before =>
    let tree ← match (← peek?).bind signCounts? with
      | some (least, most?) =>
        skip
        lazySign
        pure (.repeated least most? item)
      | none => counted item
    return { content with items := ⟨.level (← spanFrom first) tree, first⟩ :: before }

/-- Takes a single character, an escape or an anchor. -/
def atom : Reader Atom := do
  let span ← spanAhead
  match ← peek? with
  | some '\\' => escape
  | some '.' =>
    skip
    return .anyChar span
  | some '^' =>
    skip
    return .anchor .lineStart span
  | some '$' =>
    skip
    return .anchor .lineEnd span
  | some c =>
    skip
    return .literal ⟨c, false, span⟩
  | none => failHere .escapeUnended

/-- Takes alternatives up to the end of the group that they stand in, or of the whole pattern.
`group?` is the span of the parenthesis that starts the group. -/
def alternatives (group? : Option Span) : Nat → Content → Reader Tree
  | 0, content => return content.tree (← spot)
  | n + 1, content => do
    skipBlanks
    let here ← spot
    match ← peek? with
    | none =>
      match group? with
      | some span => fail .groupUnclosed span
      | none => return content.tree here
    | some '(' =>
      match ← groupStart with
      | .flags changes =>
        modify fun scan => { scan with spaced := (changes.lookup .spaced).getD scan.spaced }
        alternatives group? n (content.add (.flags changes) here)
      | .group apart changes span =>
        let outside := (← get).spaced
        modify fun scan => { scan with spaced := (changes.lookup .spaced).getD outside }
        let inner ← alternatives (some span) n { first := ← spot }
        modify fun scan => { scan with spaced := outside }
        let group := Tree.level (← spanFrom here) (.group apart changes inner)
        alternatives group? n (content.add group here)
    | some ')' =>
      if group?.isNone then failAhead .groupUnopened
      skip
      return content.tree here
    | some '|' =>
      skip
      alternatives group? n (content.bar here (← spot))
    | some '[' => alternatives group? n (content.add (← bracket) here)
    | some c =>
      if c = '\x7b' ∨ (signCounts? c).isSome then
        alternatives group? n (← repetition content)
      else alternatives group? n (content.add (.atom (← atom)) here)

end Reader

/-- Reads a written pattern. -/
def Tree.ofText (text : List Char) : Except Fault Tree :=
  (Reader.alternatives none (text.length + 1) { first := ⟨1, 1⟩ }).run' { rest := text }

end Predictive.Pattern
