import Predictive.Analysis
import Predictive.Grammar.Reading

/-!
# Log events

An event is a message with a level and the part of the program that it comes from. The events of
reading a text and of an analysis are lists in the order in which the work is done. They are
computed from the same functions as the results and change nothing in them; an analysis that fails
has the events of the stages before the failing one.
-/

namespace Predictive

namespace Log

inductive Level
  | error
  | warn
  | info
  | debug
  | trace
deriving DecidableEq

namespace Level

def rank : Level → Nat
  | error => 1
  | warn => 2
  | info => 3
  | debug => 4
  | trace => 5

/-- The written form of a level, five characters wide. -/
def label : Level → String
  | error => "ERROR"
  | warn => "WARN "
  | info => "INFO "
  | debug => "DEBUG"
  | trace => "TRACE"

end Level

/-- The parts of the program that report events. -/
inductive Source
  | command
  | reading
  | grammar
  | factoring
  | elimination
  | sets
  | table
  | analysis
deriving DecidableEq

namespace Source

/-- The path that a record names and a filter matches. -/
def path : Source → String
  | command => "ll1_grammar_helper"
  | reading => "ll1_grammar_helper::grammar::parse"
  | grammar => "ll1_grammar_helper::grammar::grammar"
  | factoring => "ll1_grammar_helper::grammar::left_factoring"
  | elimination => "ll1_grammar_helper::grammar::eliminate_left_recursion"
  | sets => "ll1_grammar_helper::grammar::first_follow"
  | table => "ll1_grammar_helper::grammar::ll1_parsing_table"
  | analysis => "ll1_grammar_helper::grammar::pipeline"

end Source

structure Event where
  level : Level
  source : Source
  message : String

namespace Event

/-- The text with every further line indented like the rest of a record. -/
def indented (text : String) : String :=
  String.ofList (text.toList.flatMap fun c => if c = '\n' then "\n    ".toList else [c])

def record (e : Event) : String :=
  "[" ++ e.level.label ++ " " ++ e.source.path ++ "] " ++ indented e.message ++ "\n"

end Event

def newNonTerminal (new base : Symbol) : Event :=
  ⟨.debug, .grammar, "New non-terminal " ++ new.name ++ " for " ++ base.name⟩

def ofReading (lexing : Lexing) (text : String) : List Event :=
  let lines := Text.lines text.toList
  let faults := Reading.faultsOf (Reading.readLines none 1 lines)
  let loaded := Grammar.load lexing text
  (faults.map fun e =>
    ⟨.debug, .reading,
      "Skipping malformed line " ++ toString e.line ++ ": " ++
        String.ofList (lines.getD (e.line - 1) [])⟩) ++
  [⟨.trace, .reading,
    "Loaded " ++ toString loaded.1.productions.length ++ " productions, " ++
      toString loaded.2.length ++ " errors"⟩]

def ofSplit (split : Split) : List Event :=
  [newNonTerminal split.suffix split.left,
    ⟨.trace, .factoring,
      "Factoring " ++ toString split.count ++ " alternatives of " ++ split.left.name ++ " on " ++
        split.head.name⟩]

/-- The events of one pass of left factoring. -/
def ofFactorPass (splits : List Split) : List Event :=
  splits.flatMap ofSplit ++
    [⟨.debug, .factoring, "Left factoring split " ++ toString splits.length ++ " groups"⟩]

/-- The events of several passes, of which `done` have gone before. -/
def ofFactorUpTo (limit done : Nat) (g : Grammar) : List Event :=
  match limit with
  | 0 => []
  | limit + 1 =>
    let r := g.factorPass
    ofFactorPass r.2 ++
      if r.1 = g then
        [⟨.debug, .analysis, "Left factoring stable after " ++ toString done ++ " passes"⟩]
      else ofFactorUpTo limit (done + 1) r.1

def ofRemoval (removal : Removal) : List Event :=
  [newNonTerminal removal.tail removal.left,
    ⟨.debug, .elimination,
      "Removing left recursion in " ++ removal.left.name ++ " (" ++ toString removal.count ++
        " recursive alternatives)"⟩]

def ofStable (title : String) (passes : Nat) : Event :=
  ⟨.debug, .sets, title ++ " sets converged after " ++ toString passes ++ " passes"⟩

def ofConflicts : List Conflict → List Event
  | [] => []
  | c :: rest =>
    [⟨.debug, .table,
      "LL(1) table has " ++ toString (c :: rest).length ++ " conflicting cells"⟩]

def ofResult (g : Grammar) (conflicts : List Conflict) : Event :=
  ⟨.info, .analysis,
    "Analyzed grammar: " ++ toString g.productions.length ++ " productions, " ++
      toString g.nonTerminals.length ++ " non-terminals, " ++ toString g.terminals.length ++
      " terminals, " ++ toString conflicts.length ++ " conflicts"⟩

/-- The events of the sets and the table of the last grammar of an analysis. -/
def ofTable (g : Grammar) : List Event :=
  match g.firstSets with
  | .error _ => []
  | .ok first =>
    ofStable "FIRST" first.passes ::
      match g.followSets first.value with
      | .error _ => []
      | .ok follow =>
        let conflicts := (g.parsingTable first.value follow.value).conflicts
        ofStable "FOLLOW" follow.passes :: ofConflicts conflicts ++ [ofResult g conflicts]

def ofAnalysis (g : Grammar) (config : Config) : List Event :=
  match g.validate with
  | .error _ => []
  | .ok () =>
    ofFactorUpTo config.factorPasses 0 g ++
      match config.eliminate (g.factorUpTo config.factorPasses) with
      | .error _ => []
      | .ok (last, removals) => removals.flatMap ofRemoval ++ ofTable last

/-- The warning about a part of a text that was not understood. -/
def ofLineError (e : LineError) : Event :=
  ⟨.warn, .command, e.toGrammarError.message⟩

/-- The warning about a cell that several alternatives claim. -/
def ofConflict (c : Conflict) : Event :=
  ⟨.warn, .command,
    c.nonTerminal.name ++ " is not LL(1) on " ++ c.terminal.name ++ ": " ++
      toString c.entries.length ++ " alternatives compete"⟩

end Log

end Predictive
