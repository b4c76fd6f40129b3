import Predictive.Config
import Predictive.Grammar.Factoring
import Predictive.LeftRecursion.Elimination
import Predictive.Table

/-!
# Analysis of a grammar

An analysis validates a grammar, factors it, removes its left recursion, computes FIRST and FOLLOW
of the result and builds the parsing table for them. It keeps the grammar of every stage. FIRST,
FOLLOW and the table refer to the last of them, `withoutLeftRecursion`.
-/

namespace Predictive

structure Analysis where
  given : Grammar
  factored : Grammar
  withoutLeftRecursion : Grammar
  first : SymbolSets
  follow : SymbolSets
  table : ParsingTable

/-- The last grammar of an analysis of a factored grammar. -/
def Config.eliminate (config : Config) (factored : Grammar) :
    Except GrammarError (Grammar × List Removal) :=
  if config.eliminateLeftRecursion then factored.eliminate else .ok (factored, [])

namespace Analysis

/-- Runs all stages, or gives the reason why one of them cannot run. -/
def run (g : Grammar) (config : Config) : Except GrammarError Analysis := do
  g.validate
  let factored := g.factorUpTo config.factorPasses
  let (last, _) ← config.eliminate factored
  let first ← last.firstSets
  let follow ← last.followSets first.value
  return {
    given := g
    factored
    withoutLeftRecursion := last
    first := first.value
    follow := follow.value
    table := last.parsingTable first.value follow.value }

end Analysis

end Predictive
