import Predictive.Proofs.Factoring.Language
import Predictive.Proofs.LeftRecursion.Language

/-!
# Grammars that an analysis can meet

A grammar is read from a text, faults in it or not, and then changed by passes of left factoring and
by eliminations of left recursion. `Prepared` is any number of such changes in any order. All of
them keep a grammar well-formed, and this is the form in which the sets and the table rely on it.
-/

namespace Predictive

namespace Grammar

inductive Prepared : Grammar → Prop
  | load (lexing : Lexing) (text : String) : Prepared (load lexing text).1
  | factor {g : Grammar} (h : Prepared g) : Prepared g.factor
  | eliminate {g r : Grammar} {removals : List Removal} (h : Prepared g)
      (hr : g.eliminate = .ok (r, removals)) : Prepared r

theorem Prepared.wellFormed {g : Grammar} (h : g.Prepared) : g.WellFormed := by
  induction h with
  | load lexing text => exact wellFormed_load lexing text
  | factor _ ih => exact ih.factor
  | eliminate _ hr ih => exact eq_eliminated_of_eliminate hr ▸ ih.eliminated

end Grammar

end Predictive
