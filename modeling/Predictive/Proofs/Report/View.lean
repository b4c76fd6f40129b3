import Predictive.Proofs.Analysis
import Predictive.Proofs.Grammar.Legible
import Predictive.Report.View

/-!
# What a report shows

The last grammar of an analysis of a text is prepared, and its start symbol has a production. So
the sets and the table of a report have a row at least, and every row of the table has a cell for
each of its columns.
-/

namespace Predictive

open Grammar

namespace Grammar

variable {g : Grammar}

theorem Prepared.iterate_factor (h : g.Prepared) (n : ℕ) : (Grammar.factor^[n] g).Prepared := by
  induction n generalizing g with
  | zero => exact h
  | succ n ih => exact ih h.factor

theorem Prepared.exists_left_eq_start (h : g.Prepared) {start : Symbol}
    (hstart : g.start? = some start) : ∃ p ∈ g.productions, p.left = start := by
  induction h with
  | load lexing text =>
      obtain ⟨rules, -, -, -, hhead, hproductions, -⟩ := load_reads lexing text
      obtain ⟨rule, hrule, hleft⟩ := Option.map_eq_some_iff.mp (hhead.symm.trans hstart)
      have hmem : start ∈ (rules.map RuleLine.left).eraseDups :=
        List.mem_eraseDups.mpr (hleft ▸ List.mem_map_of_mem (List.mem_of_head? hrule))
      rw [hproductions]
      exact ⟨_, List.mem_map_of_mem hmem, rfl⟩
  | @factor g h ih =>
      obtain ⟨p, hp, hleft⟩ := ih hstart
      obtain ⟨f, hf⟩ := exists_factorsInto g.symbols hp
      exact ⟨_, hf.left_mem, hleft⟩
  | @eliminate g r removals h hr ih =>
      obtain rfl := eq_eliminated_of_eliminate hr
      obtain ⟨p, hp, hleft⟩ := ih hstart
      rcases mem_or_removes g.symbols _ (h.wellFormed.mem_productionsInOrder.mpr hp) with
        ⟨hkept, -⟩ | ⟨tail, hremoves⟩
      · exact ⟨p, hkept, hleft⟩
      · exact ⟨_, hremoves.withTail_mem, hleft⟩

end Grammar

namespace Analysis.Stages

variable {g : Grammar} {config : Config} {analysis : Analysis}

theorem prepared (h : Stages g config analysis) (hg : g.Prepared) :
    analysis.withoutLeftRecursion.Prepared := by
  obtain ⟨n, hn⟩ := exists_factorUpTo_eq config.factorPasses g
  have hfactored : analysis.factored.Prepared := by
    rw [h.factored, hn]
    exact hg.iterate_factor n
  obtain ⟨removals, hr⟩ := h.eliminate
  rcases Config.eliminate_eq_ok hr with heq | hr
  · exact heq ▸ hfactored
  · exact .eliminate hfactored hr

theorem productions_ne_nil (h : Stages g config analysis) (hg : g.Prepared) :
    analysis.withoutLeftRecursion.productions ≠ [] := by
  obtain ⟨start, hstart⟩ := h.exists_start
  obtain ⟨p, hp, -⟩ := (h.prepared hg).exists_left_eq_start
    ((h.keeps hg.wellFormed).start?_eq.trans hstart)
  exact List.ne_nil_of_mem hp

theorem nonTerminals_ne_nil (h : Stages g config analysis) (hg : g.Prepared) :
    analysis.table.nonTerminals ≠ [] := by
  obtain ⟨p, hp⟩ := List.exists_mem_of_ne_nil _ (h.productions_ne_nil hg)
  rw [h.table]
  exact List.ne_nil_of_mem ((h.prepared hg).wellFormed.left_mem p hp)

end Analysis.Stages

theorem ParsingTable.length_cells (table : ParsingTable) (left : Symbol) :
    (table.cells left).length = table.terminals.length :=
  List.length_map ..

end Predictive
