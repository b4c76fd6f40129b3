import Predictive.LeftRecursion.Nullable

/-!
# Cycles of left corners

A left corner of an alternative is a non-terminal that stands behind symbols which can all vanish.
A non-terminal that is its own first symbol is directly left-recursive; every other way of reaching
itself through left corners is indirect left recursion, also the way back behind a prefix that
vanishes. `indirectEdges` are the left corners without the direct case.

`explore` looks for a cycle by depth-first search. `fresh` holds the vertices not visited yet and
`path` those on the way from the root to the current vertex; a vertex in neither has been left
behind, and nothing behind it leads to a cycle. Visiting a vertex takes it out of `fresh`, which
bounds the search. A cycle is reported from its first vertex on the path and ends with the same
vertex.
-/

namespace Predictive

/-- The non-terminals of a sequence that stand behind symbols which can all vanish. -/
def leftCorners (nullable : List Symbol) : List Symbol → List Symbol
  | [] => []
  | s :: rest =>
    if s = .epsilon then leftCorners nullable rest
    else if !s.isNonTerminal then []
    else if nullable.contains s then s :: leftCorners nullable rest
    else [s]

/-- The left corners of an alternative of `left`, without `left` as its first symbol. -/
def indirectCorners (nullable : List Symbol) (left : Symbol) (a : Alternative) : List Symbol :=
  if List.head? a = some left then (leftCorners nullable a).tail else leftCorners nullable a

/-- Searches for a cycle below the vertices `todo`. The answer is a cycle, or else the vertices that
have still not been visited. -/
def explore (edges : Symbol → List Symbol) (fresh path todo : List Symbol) :
    Except (List Symbol) { rest : List Symbol // rest.Sublist fresh } :=
  match todo with
  | [] => .ok ⟨fresh, .refl fresh⟩
  | v :: todo =>
    if v ∈ path then .error (path.dropWhile (· != v) ++ [v])
    else if _hv : v ∈ fresh then
      match explore edges (fresh.erase v) (path ++ [v]) (edges v) with
      | .error cycle => .error cycle
      | .ok below =>
        match explore edges below.1 path todo with
        | .error cycle => .error cycle
        | .ok rest => .ok ⟨rest.1, (rest.2.trans below.2).trans List.erase_sublist⟩
    else explore edges fresh path todo
termination_by (fresh.length, todo.length)
decreasing_by
  · exact Prod.Lex.left _ _ (length_erase_lt _hv)
  · exact Prod.Lex.left _ _ (Nat.lt_of_le_of_lt below.2.length_le (length_erase_lt _hv))
  · exact Prod.Lex.right _ (by simp)

namespace Grammar

/-- The non-terminals that an alternative of `left` can begin with, other than directly `left`. -/
def indirectEdges (g : Grammar) (nullable : List Symbol) (left : Symbol) : List Symbol :=
  match g.production? left with
  | none => []
  | some p => p.alternatives.flatMap (indirectCorners nullable left)

/-- Left recursion through other non-terminals or behind a prefix that vanishes, as the cycle of
non-terminals that it goes through. -/
def indirectCycle? (g : Grammar) : Option (List Symbol) :=
  match explore (g.indirectEdges g.nullable) g.nonTerminals [] g.nonTerminals with
  | .error cycle => some cycle
  | .ok _ => none

/-- Whether some alternative begins with its own left side. -/
def hasDirectLeftRecursion (g : Grammar) : Bool :=
  g.rules.any fun r => List.head? r.2 == some r.1

end Grammar

end Predictive
