import Predictive.LeftRecursion.Cycle

/-!
# Elimination of direct left recursion

A production `A -> A α | β` becomes `A -> β A'` and `A' -> α A' | ε` with a new non-terminal `A'`,
the tail of `A`. A production without such an alternative keeps its alternatives. The productions
come in the order of their left sides in the symbol table, and each tail follows the production it
was made for.

Only direct left recursion is removed: a grammar in which some non-terminal reaches itself in
another way is refused, with the cycle as the reason.
-/

namespace Predictive

/-- A production that has been freed of left recursion: its left side, the number of its recursive
alternatives, and its tail. -/
structure Removal where
  left : Symbol
  count : Nat
  tail : Symbol

structure Eliminated where
  symbols : SymbolTable
  productions : List Production
  removals : List Removal

namespace Production

/-- What follows the left side in the alternatives that begin with it. -/
def recursive (p : Production) : List (List Symbol) :=
  (p.alternatives.filter fun a => List.head? a == some p.left).map List.tail

/-- The alternatives that do not begin with the left side. -/
def others (p : Production) : List Alternative :=
  p.alternatives.filter fun a => List.head? a != some p.left

/-- The production of `A` after `A -> A α | β` has become `A -> β A'`. -/
def withTail (p : Production) (tail : Symbol) : Production :=
  ⟨p.left, p.others.map fun a => Alternative.ofSequence (a ++ [tail])⟩

/-- The production of the tail, `A' -> α A' | ε`. -/
def tailProduction (p : Production) (tail : Symbol) : Production :=
  ⟨tail, (p.recursive.map fun a => Alternative.ofSequence (a ++ [tail])) ++ [[.epsilon]]⟩

end Production

def eliminateProductions (symbols : SymbolTable) : List Production → Eliminated
  | [] => ⟨symbols, [], []⟩
  | p :: rest =>
    if p.recursive.isEmpty then
      let r := eliminateProductions symbols rest
      { r with productions := p :: r.productions }
    else
      let new := symbols.fresh p.left.name
      let r := eliminateProductions new.2 rest
      { r with
        productions := p.withTail new.1 :: p.tailProduction new.1 :: r.productions
        removals := ⟨p.left, p.recursive.length, new.1⟩ :: r.removals }

namespace Grammar

/-- The productions of the non-terminals, in the order of the symbol table. -/
def productionsInOrder (g : Grammar) : List Production :=
  g.nonTerminals.filterMap g.production?

/-- The grammar without direct left recursion, and what was removed from it. -/
def eliminate (g : Grammar) : Except GrammarError (Grammar × List Removal) :=
  match g.indirectCycle? with
  | some cycle => .error (.indirectLeftRecursion cycle)
  | none =>
    let r := eliminateProductions g.symbols g.productionsInOrder
    .ok ({ g with symbols := r.symbols, productions := r.productions }, r.removals)

end Grammar

end Predictive
