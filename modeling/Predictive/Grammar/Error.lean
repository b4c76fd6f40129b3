import Predictive.Symbol.Table

/-!
# Grammar errors

What can be wrong with the text of a grammar, and with a grammar as input of an analysis. The
causes are data; `message` is the one place where they are worded.
-/

namespace Predictive

/-- What is wrong with one line of a grammar text. -/
inductive LineFault
  | tooManyArrows
  | emptyLeftSide
  | invalidLeftSide (left : String)
  | noPreviousLeftSide
  | missingArrow
  | symbol (error : SymbolError)
deriving DecidableEq

namespace LineFault

def message : LineFault → String
  | tooManyArrows => "too many \"->\""
  | emptyLeftSide => "empty left side"
  | invalidLeftSide left => "left side " ++ left ++ " is not a non-terminal"
  | noPreviousLeftSide => "cannot find left side"
  | missingArrow => "missing \"->\""
  | symbol error => error.message

end LineFault

/-- Why a grammar cannot be loaded or analysed. Lines count from 1, and a cycle ends with the
symbol that it begins with. -/
inductive GrammarError
  | malformedLine (line : Nat) (fault : LineFault)
  | undefinedNonTerminal (symbol : Symbol)
  | indirectLeftRecursion (cycle : List Symbol)
  | symbol (error : SymbolError)
  | empty
deriving DecidableEq

namespace GrammarError

def message : GrammarError → String
  | malformedLine line fault => "Line " ++ toString line ++ ": " ++ fault.message
  | undefinedNonTerminal s => "non-terminal " ++ s.name ++ " is used but has no production"
  | indirectLeftRecursion cycle =>
    "indirect left recursion is not supported: " ++ " -> ".intercalate (cycle.map Symbol.name)
  | symbol error => error.message
  | empty => "grammar has no productions"

end GrammarError

end Predictive
