import Predictive.Symbol.Basic

/-!
# Symbol tables

A symbol table lists the named symbols of a grammar in the order in which they first appeared.
`symbols` puts the two reserved symbols in front, and the index of a symbol is its position there:
`ε` has index 0, `$` has index 1.

A name belongs to one symbol only. `intern` refuses a reserved name, and a name that the table
already holds for the other kind. `fresh` finds a new non-terminal: of the candidates `A'`, `A'1`,
`A'2`, … it takes the first that is no name of the table. Among one more candidate than the table
has names there is a free one, because the candidates are pairwise distinct.
-/

namespace Predictive

/-- Why a symbol cannot enter a table. -/
inductive SymbolError
  | conflictingKind (name : String)
  | reserved (name : String)
deriving DecidableEq

namespace SymbolError

def message : SymbolError → String
  | conflictingKind name => "symbol " ++ name ++ " is used both as a terminal and a non-terminal"
  | reserved name => "symbol " ++ name ++ " is reserved and cannot appear in a grammar"

end SymbolError

/-- The named symbols of a grammar, in order of first appearance. -/
structure SymbolTable where
  named : List Symbol
deriving DecidableEq

namespace SymbolTable

def empty : SymbolTable := ⟨[]⟩

def symbols (table : SymbolTable) : List Symbol :=
  .epsilon :: .endMarker :: table.named

/-- The names that a text can refer to. The reserved symbols have none. -/
def names (table : SymbolTable) : List String :=
  table.named.map Symbol.name

def index (table : SymbolTable) (s : Symbol) : Nat :=
  table.symbols.idxOf s

def get? (table : SymbolTable) (name : String) : Option Symbol :=
  table.named.find? fun s => s.name == name

def push (table : SymbolTable) (s : Symbol) : SymbolTable :=
  ⟨table.named ++ [s]⟩

/-- Appends a symbol unless the table holds it. -/
def insert (table : SymbolTable) (s : Symbol) : SymbolTable :=
  if s ∈ table.symbols then table else table.push s

/-- Appends a symbol unless the table holds it, and refuses a reserved name and a name in use for
the other kind. -/
def intern (table : SymbolTable) (s : Symbol) : Except SymbolError SymbolTable :=
  match s.kind with
  | .epsilon | .endMarker => .ok table
  | .terminal | .nonTerminal =>
    if s.name = Symbol.epsilonName ∨ s.name = Symbol.endMarkerName then
      .error (.reserved s.name)
    else
      match table.get? s.name with
      | some held => if held = s then .ok table else .error (.conflictingKind s.name)
      | none => .ok (table.push s)

/-- Enters symbols, from left to right, up to the first that is refused. The symbols before it stay
in the table. -/
def internAll (table : SymbolTable) : List Symbol → SymbolTable × Option SymbolError
  | [] => (table, none)
  | s :: rest =>
    match table.intern s with
    | .ok table => table.internAll rest
    | .error error => (table, some error)

def terminals (table : SymbolTable) : List Symbol :=
  table.symbols.filter Symbol.isTerminal

def nonTerminals (table : SymbolTable) : List Symbol :=
  table.symbols.filter Symbol.isNonTerminal

/-- The candidates for a new name, in the order in which they are tried. -/
def candidate (base : String) : Nat → String
  | 0 => base ++ "'"
  | n + 1 => base ++ "'" ++ toString (n + 1)

/-- The position of the first candidate that is not in `taken`. -/
def freshIndex (taken : List String) (base : String) : Nat :=
  ((List.range (taken.length + 1)).find? fun n => !taken.contains (candidate base n)).getD
    (taken.length + 1)

/-- The first candidate for `base` that is no name of the table. -/
def freshName (table : SymbolTable) (base : String) : String :=
  candidate base (freshIndex table.names base)

/-- A new non-terminal named after `base`, and the table with it. -/
def fresh (table : SymbolTable) (base : String) : Symbol × SymbolTable :=
  let s := Symbol.nonTerminal (table.freshName base)
  (s, table.push s)

theorem symbols_push (table : SymbolTable) (s : Symbol) :
    (table.push s).symbols = table.symbols ++ [s] := rfl

theorem names_push (table : SymbolTable) (s : Symbol) :
    (table.push s).names = table.names ++ [s.name] := by
  simp [names, push]

theorem get?_eq_none_iff (table : SymbolTable) (name : String) :
    table.get? name = none ↔ name ∉ table.names := by
  simp [get?, names, List.find?_eq_none]

theorem mem_named_of_get?_eq_some {table : SymbolTable} {name : String} {s : Symbol}
    (h : table.get? name = some s) : s ∈ table.named :=
  List.mem_of_find?_eq_some h

theorem name_of_get?_eq_some {table : SymbolTable} {name : String} {s : Symbol}
    (h : table.get? name = some s) : s.name = name := by
  simpa using List.find?_some h

end SymbolTable

end Predictive
