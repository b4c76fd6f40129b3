import Predictive.Proofs.Analysis
import Predictive.Proofs.Reading.Entered

/-!
# Rows and columns of what was read

The table of an analysis has a row for every non-terminal of its last grammar and a column for every
terminal, whether a production has it or not. The stages only ever put further non-terminals behind
the symbols that were read (`AddsNonTerminals`). So the columns are the terminals that the text has
left in the symbol table, and its non-terminals have the first rows; what stands in front of `$` in
a refused segment gets a row or a column like all the others (`load_symbols_tabulated`).
-/

namespace Predictive

open Reading

namespace Grammar

def AddsNonTerminals (g r : Grammar) : Prop :=
  ∃ new, r.symbols.named = g.symbols.named ++ new ∧ ∀ s ∈ new, s.isNonTerminal = true

namespace AddsNonTerminals

variable {g r r' : Grammar}

theorem refl (g : Grammar) : g.AddsNonTerminals g :=
  ⟨[], (List.append_nil _).symm, List.forall_mem_nil _⟩

theorem trans (h : g.AddsNonTerminals r) (h' : r.AddsNonTerminals r') :
    g.AddsNonTerminals r' := by
  obtain ⟨new, hnamed, hnew⟩ := h
  obtain ⟨new', hnamed', hnew'⟩ := h'
  refine ⟨new ++ new', ?_, List.forall_mem_append.mpr ⟨hnew, hnew'⟩⟩
  rw [hnamed', hnamed, List.append_assoc]

theorem terminals_eq (h : g.AddsNonTerminals r) : r.terminals = g.terminals := by
  obtain ⟨new, hnamed, hnew⟩ := h
  have hnone : new.filter Symbol.isTerminal = [] := by
    rw [List.filter_eq_nil_iff]
    intro s hs hterminal
    rw [Symbol.isTerminal_iff, (Symbol.isNonTerminal_iff s).mp (hnew s hs)] at hterminal
    cases hterminal
  have hsymbols : r.symbols.symbols = g.symbols.symbols ++ new := by
    rw [SymbolTable.symbols, hnamed]
    rfl
  rw [terminals, SymbolTable.terminals, hsymbols, List.filter_append, hnone, List.append_nil]
  rfl

theorem nonTerminals_prefix (h : g.AddsNonTerminals r) : g.nonTerminals <+: r.nonTerminals := by
  obtain ⟨new, hnamed, -⟩ := h
  have hsymbols : g.symbols.symbols <+: r.symbols.symbols := by
    rw [SymbolTable.symbols, SymbolTable.symbols, hnamed]
    exact List.prefix_append _ new
  exact hsymbols.filter Symbol.isNonTerminal

theorem factor (g : Grammar) : g.AddsNonTerminals g.factor := by
  refine ⟨_, named_factor g, fun s hs => ?_⟩
  obtain ⟨p, -, n, rfl⟩ := exists_candidate_of_mem_factorProductions _ _ hs
  rfl

theorem iterate_factor (g : Grammar) (n : ℕ) : g.AddsNonTerminals (Grammar.factor^[n] g) := by
  induction n generalizing g with
  | zero => exact refl g
  | succ n ih => exact (factor g).trans (ih g.factor)

theorem eliminated (g : Grammar) : g.AddsNonTerminals g.eliminated := by
  refine ⟨_, named_eliminated g, fun s hs => ?_⟩
  obtain ⟨p, -, n, rfl⟩ := exists_candidate_of_mem_tails _ _ hs
  rfl

end AddsNonTerminals

end Grammar

open Grammar

theorem Analysis.Stages.addsNonTerminals {g : Grammar} {config : Config} {analysis : Analysis}
    (h : Stages g config analysis) : g.AddsNonTerminals analysis.withoutLeftRecursion := by
  obtain ⟨n, hn⟩ := exists_factorUpTo_eq config.factorPasses g
  have hfactored : g.AddsNonTerminals analysis.factored := by
    rw [h.factored, hn]
    exact .iterate_factor g n
  obtain ⟨removals, hr⟩ := h.eliminate
  rcases Config.eliminate_eq_ok hr with heq | hr
  · exact heq ▸ hfactored
  · exact eq_eliminated_of_eliminate hr ▸ hfactored.trans (.eliminated _)

/-- The columns of an analysis are the terminals of the given grammar and the end marker, and the
non-terminals of the given grammar have the first rows. -/
theorem Analysis.Stages.rows_and_columns {g : Grammar} {config : Config} {analysis : Analysis}
    (h : Stages g config analysis) :
    analysis.table.terminals = g.terminals ++ [.endMarker] ∧
      g.nonTerminals <+: analysis.table.nonTerminals := by
  rw [h.table, ← h.addsNonTerminals.terminals_eq]
  exact ⟨rfl, h.addsNonTerminals.nonTerminals_prefix⟩

namespace Grammar

/-- Of a refused segment the symbols in front of `$` stay in the grammar, used or not, and each of
them gets its row or its column in every analysis. -/
theorem load_symbols_tabulated (lexing : Lexing) (text : String) :
    ∃ rules rejected, Reads [] (filled 1 (Text.lines text.toList)) rules rejected ∧
      (∀ s, s ∈ (load lexing text).1.symbols.named ↔
        s ≠ .epsilon ∧ (load lexing text).1.Uses s ∨
          ∃ segment ∈ rules.flatMap segments,
            segment.Refused lexing ∧ s ∈ segment.entered lexing) ∧
      ∀ config analysis, Analysis.run (load lexing text).1 config = .ok analysis →
        analysis.table.terminals = (load lexing text).1.terminals ++ [.endMarker] ∧
          (load lexing text).1.nonTerminals <+: analysis.table.nonTerminals := by
  have hreads := reads_readLines remembers_nil 1 (Text.lines text.toList)
  refine ⟨_, _, hreads, fun s => mem_named_load_iff_uses hreads, fun config analysis h => ?_⟩
  exact (Analysis.stages_of_run h).rows_and_columns

/-- The non-terminal in front of `$` has a row, though no production has it. -/
theorem load_symbols_tabulated_row :
    ∃ analysis, Analysis.run (load .compact "S -> a | B $").1 {} = .ok analysis ∧
      ¬ (load .compact "S -> a | B $").1.Uses (.nonTerminal "B") ∧
      .nonTerminal "B" ∈ analysis.table.nonTerminals := by
  have hrun : ((Analysis.run (load .compact "S -> a | B $").1 {}).toOption.map
      fun _ => true) = some true := by cbv
  have huses : decide ((load .compact "S -> a | B $").1.Uses (.nonTerminal "B")) = false := by cbv
  have hnamed :
      (load .compact "S -> a | B $").1.nonTerminals.contains (.nonTerminal "B") = true := by cbv
  obtain ⟨analysis, hanalysis, -⟩ := exists_eq_ok_of_map_toOption hrun
  obtain ⟨rules, rejected, -, -, htable⟩ := load_symbols_tabulated .compact "S -> a | B $"
  obtain ⟨-, hrows⟩ := htable {} analysis hanalysis
  exact ⟨analysis, hanalysis, of_decide_eq_false huses,
    hrows.subset (List.contains_iff_mem.mp hnamed)⟩

/-- The terminal in front of `$` has a column, though no production has it. -/
theorem load_symbols_unused :
    .terminal "b" ∈ (load .compact "S -> a | b $").1.symbols.named ∧
      ¬ (load .compact "S -> a | b $").1.Uses (.terminal "b") ∧
      ((Analysis.run (load .compact "S -> a | b $").1 {}).toOption.map
        fun analysis => analysis.table.terminals) =
          some [.terminal "a", .terminal "b", .endMarker] := by
  have hnamed : (load .compact "S -> a | b $").1.symbols.named.contains (.terminal "b") = true := by
    cbv
  have huses : decide ((load .compact "S -> a | b $").1.Uses (.terminal "b")) = false := by cbv
  exact ⟨List.contains_iff_mem.mp hnamed, of_decide_eq_false huses, by cbv⟩

end Grammar

end Predictive
