import Predictive.Grammar.Basic
import Predictive.Text.Line
import Predictive.Token

/-!
# Reading a grammar

A grammar text has one production a line, `A -> x | y`. A line that begins with `|` continues the
line before it, and blank lines are passed over. A line that is neither is at fault; it is
reported, and the lines after it are read as if it were the first, so a continuation of a faulty
line is at fault too.

Reading goes over the text twice. `readLines` finds the structure: every line becomes a left side
with the text of its right sides, or a fault. The left sides are declared in their order. After
that every piece of a right side between bars is split into tokens, its symbols are entered into
the table, and it becomes an alternative. A piece with a symbol that the table refuses is reported
and becomes no alternative; the symbols before the refused one stay in the table.
-/

namespace Predictive

/-- A line that was understood: its number, its left side and the text of its right sides. -/
structure RuleLine where
  line : Nat
  left : Symbol
  rights : List Char
deriving DecidableEq

structure LineError where
  line : Nat
  fault : LineFault
deriving DecidableEq

namespace LineError

def toGrammarError (e : LineError) : GrammarError :=
  .malformedLine e.line e.fault

end LineError

namespace Reading

def leftSide (cs : List Char) : Except LineFault Symbol :=
  if cs.isEmpty then .error .emptyLeftSide
  else if isNonTerminalName cs then .ok (.nonTerminal (String.ofList cs))
  else .error (.invalidLeftSide (String.ofList cs))

/-- The left side of a line and the text of its right sides. `previous` is the left side that a
continuation line belongs to. -/
def readLine (previous : Option Symbol) (line : List Char) :
    Except LineFault (Symbol × List Char) :=
  match Text.splitArrow line with
  | [left, rights] => (leftSide (Text.trim left)).map fun s => (s, Text.trim rights)
  | [text] =>
    match Text.trim text, previous with
    | '|' :: rights, some left => .ok (left, Text.trim rights)
    | '|' :: _, none => .error .noPreviousLeftSide
    | _, _ => .error .missingArrow
  | _ => .error .tooManyArrows

/-- Reads lines, of which the first has the given number. Blank lines leave nothing. -/
def readLines (previous : Option Symbol) (number : Nat) :
    List (List Char) → List (Except LineError RuleLine)
  | [] => []
  | line :: rest =>
    if line.all Text.isBlank then readLines previous (number + 1) rest
    else
      match readLine previous line with
      | .ok (left, rights) =>
        .ok ⟨number, left, rights⟩ :: readLines (some left) (number + 1) rest
      | .error fault => .error ⟨number, fault⟩ :: readLines none (number + 1) rest

def rulesOf : List (Except LineError RuleLine) → List RuleLine
  | [] => []
  | .ok rule :: rest => rule :: rulesOf rest
  | .error _ :: rest => rulesOf rest

def faultsOf : List (Except LineError RuleLine) → List LineError
  | [] => []
  | .ok _ :: rest => faultsOf rest
  | .error e :: rest => e :: faultsOf rest

structure Segment where
  line : Nat
  left : Symbol
  text : List Char
deriving DecidableEq

def segments (rule : RuleLine) : List Segment :=
  (rule.rights.splitOn '|').map fun text => ⟨rule.line, rule.left, text⟩

theorem line_of_mem_segments {rule : RuleLine} {segment : Segment} (h : segment ∈ segments rule) :
    segment.line = rule.line := by
  obtain ⟨text, -, rfl⟩ := List.mem_map.mp h
  rfl

theorem left_of_mem_segments {rule : RuleLine} {segment : Segment} (h : segment ∈ segments rule) :
    segment.left = rule.left := by
  obtain ⟨text, -, rfl⟩ := List.mem_map.mp h
  rfl

theorem exists_rule_of_mem_segments {rules : List RuleLine} {segment : Segment}
    (h : segment ∈ rules.flatMap segments) : ∃ rule ∈ rules, rule.left = segment.left := by
  obtain ⟨rule, hrule, hmem⟩ := List.mem_flatMap.mp h
  exact ⟨rule, hrule, (left_of_mem_segments hmem).symm⟩

end Reading

namespace Grammar

/-- The symbols of the text of an alternative, entered into the grammar. After a refused symbol the
grammar keeps those before it. -/
def readSequence (g : Grammar) (lexing : Lexing) (text : List Char) :
    Grammar × Except SymbolError (List Symbol) :=
  let sequence := (Token.ofText lexing text).map Token.symbol
  let r := g.symbols.internAll sequence
  ({ g with symbols := r.1 },
    match r.2 with
    | none => .ok sequence
    | some error => .error error)

def declareLeft (g : Grammar) (left : Symbol) : Grammar :=
  { g with symbols := g.symbols.insert left }.declare left

/-- Adds the alternatives that segments spell, and collects the faults of those that spell none. -/
def addSegments (lexing : Lexing) (g : Grammar) :
    List Reading.Segment → Grammar × List LineError
  | [] => (g, [])
  | segment :: rest =>
    match g.readSequence lexing segment.text with
    | (g, .ok sequence) => addSegments lexing (g.add segment.left sequence) rest
    | (g, .error error) =>
      let r := addSegments lexing g rest
      (r.1, ⟨segment.line, .symbol error⟩ :: r.2)

/-- Reads as much of a text as can be understood. The faults of whole lines come first, then those
of single right sides, each in the order of the text. -/
def load (lexing : Lexing) (text : String) : Grammar × List LineError :=
  let readings := Reading.readLines none 1 (Text.lines text.toList)
  let rules := Reading.rulesOf readings
  let declared := rules.foldl (fun g rule => g.declareLeft rule.left) empty
  let r := addSegments lexing declared (rules.flatMap Reading.segments)
  (r.1, Reading.faultsOf readings ++ r.2)

/-- Reads a text that has to be without fault. Of several faults the first that `load` reports is
the answer. -/
def parse (lexing : Lexing) (text : String) : Except GrammarError Grammar :=
  match load lexing text with
  | (g, []) => .ok g
  | (_, e :: _) => .error e.toGrammarError

end Grammar

end Predictive
