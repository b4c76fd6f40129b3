import Predictive.Analysis

/-!
# Report views

A view holds what a report shows of a grammar, of its FIRST and FOLLOW sets and of its parsing
table, with every symbol given by its name. The three formats of a report are written from the same
views. A view of productions also knows which names are terminals; the formats that need it do not
print it.
-/

namespace Predictive

/-- A left side and its right sides, by name. -/
structure ProductionView where
  left : String
  rights : List (List String)

structure GrammarView where
  productions : List ProductionView
  terminals : List String

structure SetsRow where
  name : String
  nullable : Bool
  first : List String
  follow : List String

/-- A row of the parsing table, with one view for every column. -/
structure TableRow where
  left : String
  cells : List ProductionView

structure ConflictView where
  nonTerminal : String
  terminal : String
  alternatives : List (List String)

structure TableView where
  columns : List String
  rows : List TableRow
  conflicts : List ConflictView
  terminals : List String

structure Report where
  given : GrammarView
  factored : GrammarView
  withoutLeftRecursion : GrammarView
  sets : List SetsRow
  table : TableView

namespace Production

def view (p : Production) : ProductionView :=
  ⟨p.left.name, p.alternatives.map Alternative.names⟩

end Production

namespace SymbolSets

/-- The names in a set in the order of their characters, and `ε` after all others. -/
def sortedNames (sets : SymbolSets) (key : Symbol) : List String :=
  let names := (withoutEpsilon (sets.members key)).map Symbol.name
  let sorted := names.mergeSort fun a b => decide (a ≤ b)
  if sets.contains key .epsilon then sorted ++ [Symbol.epsilonName] else sorted

end SymbolSets

namespace Grammar

def terminalNames (g : Grammar) : List String :=
  g.terminals.map Symbol.name

def view (g : Grammar) : GrammarView :=
  ⟨g.productions.map Production.view, g.terminalNames⟩

/-- The sets of every left side, in the order of the productions. -/
def setsView (g : Grammar) (first follow : SymbolSets) : List SetsRow :=
  g.productions.map fun p =>
    ⟨p.left.name, first.contains p.left .epsilon, first.sortedNames p.left,
      follow.sortedNames p.left⟩

end Grammar

namespace Conflict

def view (c : Conflict) : ConflictView :=
  ⟨c.nonTerminal.name, c.terminal.name, c.entries.map fun e => Alternative.names e.alternative⟩

end Conflict

namespace ParsingTable

/-- A table as a report of a grammar shows it. -/
def view (table : ParsingTable) (g : Grammar) : TableView where
  columns := table.terminals.map Symbol.name
  rows := table.nonTerminals.map fun nonTerminal =>
    ⟨nonTerminal.name, (table.cells nonTerminal).map fun c =>
      ⟨nonTerminal.name, c.2.entries.map fun e => Alternative.names e.alternative⟩⟩
  conflicts := table.conflicts.map Conflict.view
  terminals := g.terminalNames

end ParsingTable

namespace Analysis

def report (analysis : Analysis) : Report where
  given := analysis.given.view
  factored := analysis.factored.view
  withoutLeftRecursion := analysis.withoutLeftRecursion.view
  sets := analysis.withoutLeftRecursion.setsView analysis.first analysis.follow
  table := analysis.table.view analysis.withoutLeftRecursion

end Analysis

end Predictive
