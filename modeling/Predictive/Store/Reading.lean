import Predictive.Grammar.Reading
import Predictive.Store.Grammar

/-!
# Reading a grammar into a store

The text is gone over twice. The first sweep interns and declares the left sides, line by line, and
keeps their handles with the text of the right sides; a continuation line has the handle of the line
before it. The second one interns the symbols of every right side and adds the alternatives. When a
symbol is refused, the symbols of the right side before it stay in the store.
-/

namespace Predictive

/-- A line that was understood: its number, the handle of its left side and the text of its right
sides. -/
structure StoredLine where
  line : Nat
  left : Handle
  rights : List Char

/-- What the first sweep leaves. -/
structure Outline where
  store : GrammarStore
  rules : List StoredLine
  faults : List LineError

namespace GrammarStore

/-- The handle of the left side of a line and the text of its right sides. -/
def readLine (g : GrammarStore) (previous : Option Handle) (line : List Char) :
    Except LineFault (Handle × List Char × GrammarStore) :=
  match Text.splitArrow line with
  | [left, rights] =>
    match Reading.leftSide (Text.trim left) with
    | .error fault => .error fault
    | .ok s =>
      match g.intern s.name .nonTerminal with
      | .error error => .error (.symbol error)
      | .ok (h, g) => .ok (h, Text.trim rights, g)
  | [text] =>
    match Text.trim text, previous with
    | '|' :: rights, some left => .ok (left, Text.trim rights, g)
    | '|' :: _, none => .error .noPreviousLeftSide
    | _, _ => .error .missingArrow
  | _ => .error .tooManyArrows

/-- Reads the left sides of lines, of which the first has the given number. -/
def readLines (g : GrammarStore) (previous : Option Handle) (number : Nat) :
    List (List Char) → Outline
  | [] => ⟨g, [], []⟩
  | line :: rest =>
    if line.all Text.isBlank then readLines g previous (number + 1) rest
    else
      match g.readLine previous line with
      | .ok (left, rights, g) =>
        let r := readLines (g.declare left) (some left) (number + 1) rest
        { r with rules := ⟨number, left, rights⟩ :: r.rules }
      | .error fault =>
        let r := readLines g none (number + 1) rest
        { r with faults := ⟨number, fault⟩ :: r.faults }

/-- The handles of tokens, up to the first that is refused. -/
def internTokens (g : GrammarStore) : List Token → GrammarStore × Except SymbolError (List Handle)
  | [] => (g, .ok [])
  | token :: rest =>
    match g.intern token.symbol.name token.symbol.kind with
    | .error error => (g, .error error)
    | .ok (h, g) =>
      let r := g.internTokens rest
      (r.1, r.2.map (h :: ·))

def readSequence (g : GrammarStore) (lexing : Lexing) (text : List Char) :
    GrammarStore × Except SymbolError (List Handle) :=
  g.internTokens (Token.ofText lexing text)

/-- Adds the alternatives of one line, and collects the faults of those that spell none. -/
def addRights (lexing : Lexing) (line : Nat) (left : Handle) (g : GrammarStore) :
    List (List Char) → GrammarStore × List LineError
  | [] => (g, [])
  | text :: rest =>
    match g.readSequence lexing text with
    | (g, .ok sequence) => addRights lexing line left (g.add left sequence) rest
    | (g, .error error) =>
      let r := addRights lexing line left g rest
      (r.1, ⟨line, .symbol error⟩ :: r.2)

def addLines (lexing : Lexing) (g : GrammarStore) :
    List StoredLine → GrammarStore × List LineError
  | [] => (g, [])
  | rule :: rest =>
    let r := addRights lexing rule.line rule.left g (rule.rights.splitOn '|')
    let r' := addLines lexing r.1 rest
    (r'.1, r.2 ++ r'.2)

/-- Reads as much of a text as can be understood. The faults of whole lines come first. -/
def load (lexing : Lexing) (text : String) : GrammarStore × List LineError :=
  let outline := empty.readLines none 1 (Text.lines text.toList)
  let r := addLines lexing outline.store outline.rules
  (r.1, outline.faults ++ r.2)

end GrammarStore

end Predictive
