import Predictive.Sets.Follow

/-!
# The predictive parsing table

The row `A` and the column `t` of the table say which alternatives of `A` a parser may choose when
the next symbol is `t`. A cell is in conflict when several alternatives claim it; a grammar without
such a cell is LL(1).

The cells are a map that is filled by registration, alternative by alternative: first on the symbols
of its FIRST and then, when it can vanish, on the symbols of the FOLLOW of its left side. Both may
name the same symbol, so `register` passes over an alternative whose position the cell already has.
-/

namespace Predictive

/-- An alternative in a cell, with its position in its production. -/
structure Entry where
  index : Nat
  alternative : Alternative
deriving DecidableEq

namespace Entry

/-- Appends an entry, unless there is one of the same position. -/
def insert (entry : Entry) (entries : List Entry) : List Entry :=
  if entries.all fun e => e.index != entry.index then entries ++ [entry] else entries

end Entry

inductive Cell
  | empty
  | unique (entry : Entry)
  | conflict (entries : List Entry)
deriving DecidableEq

namespace Cell

def ofEntries : List Entry → Cell
  | [] => empty
  | [entry] => unique entry
  | entries => conflict entries

def entries : Cell → List Entry
  | empty => []
  | unique entry => [entry]
  | conflict entries => entries

theorem entries_ofEntries (entries : List Entry) : (ofEntries entries).entries = entries := by
  match entries with
  | [] => rfl
  | [_] => rfl
  | _ :: _ :: _ => rfl

end Cell

structure Conflict where
  nonTerminal : Symbol
  terminal : Symbol
  entries : List Entry
deriving DecidableEq

/-- The cells that have been registered, by row and column. -/
structure CellMap where
  entries : List ((Symbol × Symbol) × List Entry)

namespace CellMap

def empty : CellMap := ⟨[]⟩

def entriesAt (cells : CellMap) (nonTerminal terminal : Symbol) : List Entry :=
  (cells.entries.lookup (nonTerminal, terminal)).getD []

/-- Enters an alternative into one cell. -/
def register (cells : CellMap) (nonTerminal terminal : Symbol) (entry : Entry) : CellMap :=
  ⟨insertKey (nonTerminal, terminal) (entry.insert (cells.entriesAt nonTerminal terminal))
    cells.entries⟩

/-- Enters an alternative into the cells of several columns. -/
def registerAll (cells : CellMap) (nonTerminal : Symbol) (terminals : List Symbol)
    (entry : Entry) : CellMap :=
  terminals.foldl (fun cells t => cells.register nonTerminal t entry) cells

/-- Enters an alternative of `left` into every cell that predicts it. -/
def registerAlternative (first follow : SymbolSets) (left : Symbol) (cells : CellMap)
    (entry : Entry) : CellMap :=
  let own := firstOf first entry.alternative
  let cells := cells.registerAll left (withoutEpsilon own) entry
  if own.contains .epsilon then cells.registerAll left (follow.members left) entry else cells

def registerProduction (first follow : SymbolSets) (cells : CellMap) (p : Production) : CellMap :=
  (p.alternatives.mapIdx Entry.mk).foldl (registerAlternative first follow p.left) cells

end CellMap

/-- A parsing table. The columns are the terminals and, last, the end marker. -/
structure ParsingTable where
  nonTerminals : List Symbol
  terminals : List Symbol
  registered : CellMap

namespace ParsingTable

/-- A cell in which nothing was registered is empty. -/
def cell (table : ParsingTable) (nonTerminal terminal : Symbol) : Cell :=
  .ofEntries (table.registered.entriesAt nonTerminal terminal)

def cells (table : ParsingTable) (nonTerminal : Symbol) : List (Symbol × Cell) :=
  table.terminals.map fun t => (t, table.cell nonTerminal t)

/-- The conflicts of a row, in column order. -/
def rowConflicts (table : ParsingTable) (nonTerminal : Symbol) : List Conflict :=
  (table.cells nonTerminal).filterMap fun c =>
    match c.2 with
    | .conflict entries => some ⟨nonTerminal, c.1, entries⟩
    | _ => none

/-- Every cell in conflict, row by row in column order. -/
def conflicts (table : ParsingTable) : List Conflict :=
  table.nonTerminals.flatMap table.rowConflicts

def isLL1 (table : ParsingTable) : Bool :=
  table.conflicts.isEmpty

theorem mem_cells (table : ParsingTable) (nonTerminal terminal : Symbol) (c : Cell) :
    (terminal, c) ∈ table.cells nonTerminal ↔
      terminal ∈ table.terminals ∧ c = table.cell nonTerminal terminal := by
  simp only [cells, List.mem_map, Prod.mk.injEq]
  constructor
  · rintro ⟨t, ht, rfl, rfl⟩
    exact ⟨ht, rfl⟩
  · rintro ⟨ht, rfl⟩
    exact ⟨terminal, ht, rfl, rfl⟩

end ParsingTable

namespace Grammar

def parsingTable (g : Grammar) (first follow : SymbolSets) : ParsingTable where
  nonTerminals := g.nonTerminals
  terminals := g.terminals ++ [.endMarker]
  registered := g.productions.foldl (CellMap.registerProduction first follow) .empty

end Grammar

end Predictive
