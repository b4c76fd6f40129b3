/-!
# Grammar symbols

A symbol is a terminal or a non-terminal with a name, or one of two reserved symbols: the empty
word, written `ε`, and the end marker `$`. The reserved symbols are constructors of their own, so
a name read from a text is never mistaken for one of them.

Two symbols are the same exactly when they have the same kind and, for the named kinds, the same
name. A symbol keeps its meaning in every grammar, so a change to a grammar renumbers nothing.
-/

namespace Predictive

inductive Kind
  | epsilon
  | endMarker
  | terminal
  | nonTerminal
deriving DecidableEq

inductive Symbol
  | epsilon
  | endMarker
  | terminal (name : String)
  | nonTerminal (name : String)
deriving DecidableEq

namespace Symbol

def epsilonName : String := "ε"

def endMarkerName : String := "$"

def name : Symbol → String
  | epsilon => epsilonName
  | endMarker => endMarkerName
  | terminal name => name
  | nonTerminal name => name

def kind : Symbol → Kind
  | epsilon => .epsilon
  | endMarker => .endMarker
  | terminal _ => .terminal
  | nonTerminal _ => .nonTerminal

/-- The symbol of a kind and a name. The reserved kinds have one symbol each, whatever the name. -/
def ofKind (kind : Kind) (name : String) : Symbol :=
  match kind with
  | .epsilon => .epsilon
  | .endMarker => .endMarker
  | .terminal => .terminal name
  | .nonTerminal => .nonTerminal name

def isNonTerminal : Symbol → Bool
  | nonTerminal _ => true
  | _ => false

def isTerminal : Symbol → Bool
  | terminal _ => true
  | _ => false

theorem kind_ofKind (kind : Kind) (name : String) : (ofKind kind name).kind = kind := by
  cases kind <;> rfl

theorem ofKind_kind_name (s : Symbol) : ofKind s.kind s.name = s := by
  cases s <;> rfl

theorem isNonTerminal_iff (s : Symbol) : s.isNonTerminal = true ↔ s.kind = .nonTerminal := by
  cases s <;> simp [isNonTerminal, kind]

theorem isTerminal_iff (s : Symbol) : s.isTerminal = true ↔ s.kind = .terminal := by
  cases s <;> simp [isTerminal, kind]

end Symbol

end Predictive
