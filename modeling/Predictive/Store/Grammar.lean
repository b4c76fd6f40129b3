import Predictive.Grammar.Basic
import Predictive.Store.Symbols

/-!
# Grammar stores

A grammar is kept as a symbol store with productions over its handles. The productions are a list in
the order of their declaration, and an index gives the position of the production of a left side.
`view` reads off the grammar that a store stands for.

Nothing here checks that a handle belongs to the store; whoever calls an operation has it from the
same store, or from an earlier state of it.
-/

namespace Predictive

structure StoredProduction where
  left : Handle
  alternatives : List (List Handle)
deriving DecidableEq

structure GrammarStore where
  symbols : SymbolStore
  productions : List StoredProduction
  productionIndex : List (Handle × Nat)
  start? : Option Handle
deriving DecidableEq

namespace GrammarStore

def empty : GrammarStore := ⟨.empty, [], [], none⟩

/-- A store with the same symbols and the same start symbol but no productions. -/
def deriveEmpty (g : GrammarStore) : GrammarStore :=
  { g with productions := [], productionIndex := [] }

def production? (g : GrammarStore) (left : Handle) : Option StoredProduction :=
  (g.productionIndex.lookup left).bind fun i => g.productions[i]?

def intern (g : GrammarStore) (name : String) (kind : Kind) :
    Except SymbolError (Handle × GrammarStore) :=
  (g.symbols.intern name kind).map fun r => (r.1, { g with symbols := r.2 })

/-- A new non-terminal named after `base`. -/
def fresh (g : GrammarStore) (base : String) : Except SymbolError (Handle × GrammarStore) :=
  g.intern (g.symbols.freshName base) .nonTerminal

/-- Gives `left` a production without alternatives, unless it has one. -/
def declare (g : GrammarStore) (left : Handle) : GrammarStore :=
  if (g.productionIndex.lookup left).isSome then g
  else
    { g with
      productions := g.productions ++ [⟨left, []⟩]
      productionIndex := insertKey left g.productions.length g.productionIndex
      start? := g.start? <|> some left }

/-- The alternative that a sequence of handles spells: `ε` is dropped beside other symbols. -/
def normalize (sequence : List Handle) : List Handle :=
  let visible := sequence.filter (· != .epsilon)
  if visible.isEmpty then [.epsilon] else visible

/-- Appends the alternative that a sequence spells to the production of `left`. -/
def add (g : GrammarStore) (left : Handle) (sequence : List Handle) : GrammarStore :=
  let declared := g.declare left
  match declared.productionIndex.lookup left with
  | none => declared
  | some i =>
    { declared with
      productions := declared.productions.modify i fun p =>
        { p with alternatives := p.alternatives ++ [normalize sequence] } }

/-- Adds several alternatives to one production. -/
def addAll (g : GrammarStore) (left : Handle) (sequences : List (List Handle)) : GrammarStore :=
  sequences.foldl (fun g sequence => g.add left sequence) g

/-- The alternatives as lists of symbols. -/
def viewProduction (store : SymbolStore) (p : StoredProduction) : Production :=
  ⟨store.symbol p.left, p.alternatives.map (·.map store.symbol)⟩

/-- The grammar that a store stands for. -/
def view (g : GrammarStore) : Grammar where
  symbols := g.symbols.view
  productions := g.productions.map (viewProduction g.symbols)
  start? := g.start?.map g.symbols.symbol

end GrammarStore

end Predictive
