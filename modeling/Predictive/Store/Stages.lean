import Predictive.Grammar.Overlap
import Predictive.LeftRecursion.Elimination
import Predictive.Store.Grammar

/-!
# Left factoring and left recursion in a store

Both stages read one store and build another over a copy of its symbols, so every handle of the
store that they read is good for the result too. They use nothing but the operations that declare
productions, add alternatives and make new non-terminals.

A pass of left factoring goes through the productions in order and puts each alternative into the
group of the symbol that it begins with. Elimination goes through the non-terminals in the order of
their slots. The search for a cycle that comes before it only reads; it is that of the grammar that
the store stands for.
-/

namespace Predictive

/-- Alternatives that begin with the same symbol. An empty word begins with none. -/
structure HeadGroup where
  head? : Option Handle
  members : List (List Handle)

namespace HeadGroup

def headOf (alternative : List Handle) : Option Handle :=
  alternative.head?.filter (· != .epsilon)

/-- Puts an alternative into the group of its head, or opens a group behind the others. -/
def insert (alternative : List Handle) : List HeadGroup → List HeadGroup
  | [] => [⟨headOf alternative, [alternative]⟩]
  | group :: rest =>
    if (headOf alternative).isSome && group.head? == headOf alternative then
      { group with members := group.members ++ [alternative] } :: rest
    else group :: insert alternative rest

def ofAlternatives (alternatives : List (List Handle)) : List HeadGroup :=
  alternatives.foldl (fun groups alternative => insert alternative groups) []

end HeadGroup

namespace StoredProduction

/-- What follows a left side in the alternatives that begin with it. -/
def recursive (p : StoredProduction) (left : Handle) : List (List Handle) :=
  (p.alternatives.filter fun a => a.head? == some left).map List.tail

def others (p : StoredProduction) (left : Handle) : List (List Handle) :=
  p.alternatives.filter fun a => a.head? != some left

end StoredProduction

/-- A new left side with the suffixes that become its alternatives. -/
structure SuffixProduction where
  left : Handle
  suffixes : List (List Handle)

namespace GrammarStore

/-- The name in a slot. A handle of the store always has one. -/
def nameOf (g : GrammarStore) (h : Handle) : String :=
  g.symbols.names.getD h ""

/-- Adds what becomes of the groups of one production, with new symbols named after `base`. The
productions of the new symbols are left for later. -/
def factorGroups (base : String) (left : Handle) (g : GrammarStore) :
    List HeadGroup → Except SymbolError (GrammarStore × List SuffixProduction)
  | [] => .ok (g, [])
  | group :: rest =>
    match group.head? with
    | none => factorGroups base left (g.addAll left group.members) rest
    | some head =>
      if group.members.length ≤ 1 then factorGroups base left (g.addAll left group.members) rest
      else
        match g.fresh base with
        | .error error => .error error
        | .ok (suffix, g) =>
          (factorGroups base left (g.add left [head, suffix]) rest).map fun r =>
            (r.1, ⟨suffix, group.members.map List.tail⟩ :: r.2)

def addSuffixes (g : GrammarStore) (new : List SuffixProduction) : GrammarStore :=
  new.foldl (fun g s => g.addAll s.left s.suffixes) g

/-- Factors the productions of `source` into `g`, and counts the groups that are split off. -/
def factorProductions (source g : GrammarStore) :
    List StoredProduction → Except SymbolError (GrammarStore × Nat)
  | [] => .ok (g, 0)
  | p :: rest =>
    match factorGroups (source.nameOf p.left) p.left (g.declare p.left)
        (HeadGroup.ofAlternatives p.alternatives) with
    | .error error => .error error
    | .ok (g, new) =>
      (factorProductions source (g.addSuffixes new) rest).map fun r => (r.1, new.length + r.2)

/-- One pass of left factoring, and the number of groups that it split off. -/
def factorPass (g : GrammarStore) : Except SymbolError (GrammarStore × Nat) :=
  factorProductions g g.deriveEmpty g.productions

/-- Repeats the pass until it splits nothing. A pass that splits something shortens what is shared,
so the comparison only shows that the repetition ends. -/
def factorFully (g : GrammarStore) : Except SymbolError GrammarStore :=
  match g.factorPass with
  | .error error => .error error
  | .ok (next, count) =>
    if count = 0 then .ok next
    else if _h : next.view.overlap < g.view.overlap then next.factorFully
    else .ok next
termination_by g.view.overlap

/-- Puts into `g` what the production of a non-terminal becomes without direct left recursion. -/
def eliminateProduction (source g : GrammarStore) (left : Handle) :
    Except SymbolError GrammarStore :=
  match source.production? left with
  | none => .ok g
  | some p =>
    let g := g.declare left
    if (p.recursive left).isEmpty then .ok (g.addAll left (p.others left))
    else
      (g.fresh (source.nameOf left)).map fun (tail, g) =>
        ((g.addAll left ((p.others left).map (· ++ [tail]))).addAll tail
          ((p.recursive left).map (· ++ [tail]))).add tail [.epsilon]

def eliminateProductions (source g : GrammarStore) :
    List Handle → Except SymbolError GrammarStore
  | [] => .ok g
  | left :: rest =>
    match eliminateProduction source g left with
    | .error error => .error error
    | .ok g => eliminateProductions source g rest

/-- The store without direct left recursion. -/
def eliminate (g : GrammarStore) : Except GrammarError GrammarStore :=
  match g.view.indirectCycle? with
  | some cycle => .error (.indirectLeftRecursion cycle)
  | none => (eliminateProductions g g.deriveEmpty g.symbols.nonTerminals).mapError .symbol

end GrammarStore

end Predictive
