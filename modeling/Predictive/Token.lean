import Predictive.Symbol.Basic
import Predictive.Text.Blank

/-!
# Tokens of a right-hand side

The text of an alternative is split into tokens in one of two ways, its `Lexing`. In compact
lexing a run of name characters that starts with an upper-case letter is a non-terminal and every
other character that is not blank is a terminal of its own. In word lexing the tokens are the
words between blanks, and a word is a non-terminal when it starts with an upper-case letter.

Letters and digits are those of ASCII. The empty word is written `ε` or `ϵ`, and in word lexing
also `epsilon`.
-/

namespace Predictive

inductive Lexing
  | compact
  | words
deriving DecidableEq

inductive Token
  | epsilon
  | terminal (text : String)
  | nonTerminal (text : String)
deriving DecidableEq

/-- Letters, digits, the underscore and the apostrophe continue the name of a non-terminal. -/
def isNameChar (c : Char) : Bool :=
  c.isAlphanum || c == '_' || c == '\''

/-- Whether a word is taken for a non-terminal: it starts with an upper-case letter. -/
def startsUpper : List Char → Bool
  | [] => false
  | c :: _ => c.isUpper

/-- Whether a word may stand on the left side of a production. -/
def isNonTerminalName : List Char → Bool
  | [] => false
  | c :: cs => c.isUpper && cs.all isNameChar

def isEpsilonChar (c : Char) : Bool :=
  c == 'ε' || c == 'ϵ'

def isEpsilonWord (word : List Char) : Bool :=
  word == ['ε'] || word == ['ϵ'] || word == "epsilon".toList

/-- The kind of a symbol spelled like the given word. -/
def Kind.ofWord (word : List Char) : Kind :=
  if startsUpper word then .nonTerminal else .terminal

namespace Token

def ofWord (word : List Char) : Token :=
  if isEpsilonWord word then .epsilon
  else if startsUpper word then .nonTerminal (String.ofList word)
  else .terminal (String.ofList word)

/-- The tokens of a text without spacing between them. -/
def compact : List Char → List Token
  | [] => []
  | c :: cs =>
    if Text.isBlank c then compact cs
    else if c.isUpper then
      .nonTerminal (String.ofList (c :: cs.takeWhile isNameChar)) ::
        compact (cs.dropWhile isNameChar)
    else if isEpsilonChar c then .epsilon :: compact cs
    else .terminal (String.ofList [c]) :: compact cs
termination_by cs => cs.length
decreasing_by
  · simp
  · exact Nat.lt_succ_of_le (List.dropWhile_sublist _).length_le
  · simp
  · simp

/-- The tokens of the text of an alternative. -/
def ofText (lexing : Lexing) (cs : List Char) : List Token :=
  match lexing with
  | .compact => compact cs
  | .words => (Text.words cs).map ofWord

def symbol : Token → Symbol
  | epsilon => .epsilon
  | terminal text => .terminal text
  | nonTerminal text => .nonTerminal text

theorem compact_nil : compact [] = [] := by
  rw [compact]

theorem compact_blank {c : Char} (cs : List Char) (h : Text.isBlank c = true) :
    compact (c :: cs) = compact cs := by
  rw [compact, if_pos h]

end Token

end Predictive
