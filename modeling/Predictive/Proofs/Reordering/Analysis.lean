import Predictive.Proofs.Factoring.Sets
import Predictive.Proofs.Outcome
import Predictive.Proofs.Reordering.Grammar
import Predictive.Proofs.Table

/-!
# Analyses of reordered grammars

The members of FIRST and FOLLOW are told in terms of derivations, and reordered grammars have the
same derivations; so their sets have the same members, whatever the order of the sweeps was. A cell
looks at the production of its row and at these members, and is the same on both sides, with the
positions of its entries (`Reordered.cell_eq`).

The stages of an analysis lead from reordered grammars to reordered ones, and whether a stage
refuses its input does not depend on the order either. Which non-terminal or which cycle is reported
may depend on it. So two analyses stop for the same kind of reason, or they agree about every symbol
(`Analysis.sameOutcome_of_reordered`).
-/

namespace Predictive

namespace Grammar

variable {g g' : Grammar} {first follow first' follow' : SymbolSets}

/-! ### What exact sets hold -/

namespace Exact

variable (h : g.Exact first follow)
include h

theorem mem_firstOf_iff {α : List Symbol} (hα : .endMarker ∉ α) {s : Symbol} :
    s ∈ firstOf first α ↔ g.CanBegin α s :=
  ⟨h.firstSound.mem_firstOf hα, h.firstClosed.mem_firstOf_of_canBegin⟩

theorem contains_first_iff {A : Symbol} (hA : A ∈ g.nonTerminals) {s : Symbol} :
    first.contains A s = true ↔ g.CanBegin [A] s := by
  obtain ⟨name, rfl⟩ := exists_eq_of_mem_nonTerminals hA
  exact mem_firstOf_singleton.symm.trans (h.mem_firstOf_iff (by simp))

theorem contains_follow_iff {A : Symbol} (hA : A ∈ g.nonTerminals) {s : Symbol} :
    follow.contains A s = true ↔ g.CanFollow A s := by
  obtain ⟨name, rfl⟩ := exists_eq_of_mem_nonTerminals hA
  exact ⟨h.followSound _ _, h.followClosed.contains_of_canFollow h.firstClosed h.start⟩

end Exact

theorem WellFormed.exact (hg : g.WellFormed) {first follow : Stable SymbolSets}
    (hfirst : g.firstSets = .ok first) (hfollow : g.followSets first.value = .ok follow) :
    g.Exact first.value follow.value := by
  obtain ⟨_, hv, -⟩ := bind_eq_ok_iff.mp hfirst
  obtain ⟨first', follow', hfirst', hfollow', hexact⟩ := hg.exists_exact hv
  obtain rfl : first' = first := Except.ok.inj (hfirst'.symm.trans hfirst)
  obtain rfl : follow' = follow := Except.ok.inj (hfollow'.symm.trans hfollow)
  exact hexact

/-! ### Sets and tables -/

namespace Reordered

variable (h : g.Reordered g')
include h

theorem mem_terminals_parsingTable_iff {t : Symbol} :
    t ∈ (g.parsingTable first follow).terminals ↔
      t ∈ (g'.parsingTable first' follow').terminals :=
  ((h.named.filter Symbol.isTerminal).append_right [.endMarker]).mem_iff

variable (hexact : g.Exact first follow) (hexact' : g'.Exact first' follow')
include hexact hexact'

theorem contains_first_eq {A : Symbol} (hA : A ∈ g.nonTerminals) (s : Symbol) :
    first.contains A s = first'.contains A s := by
  rw [Bool.eq_iff_iff, hexact.contains_first_iff hA,
    hexact'.contains_first_iff (h.mem_nonTerminals_iff.mp hA), h.canBegin_iff]

theorem contains_follow_eq {A : Symbol} (hA : A ∈ g.nonTerminals) (s : Symbol) :
    follow.contains A s = follow'.contains A s := by
  rw [Bool.eq_iff_iff, hexact.contains_follow_iff hA,
    hexact'.contains_follow_iff (h.mem_nonTerminals_iff.mp hA), h.canFollow_iff]

theorem mem_lookaheads_iff {left : Symbol} {a : Alternative} (hrule : (left, a) ∈ g.rules)
    {t : Symbol} : t ∈ lookaheads first follow left a ↔ t ∈ lookaheads first' follow' left a := by
  have hend := h.wellFormed.endMarker_notMem hrule
  have hleft := h.wellFormed.left_mem_of_rule hrule
  rw [mem_lookaheads, mem_lookaheads, hexact.mem_firstOf_iff hend, hexact.mem_firstOf_iff hend,
    hexact'.mem_firstOf_iff hend, hexact'.mem_firstOf_iff hend, h.canBegin_iff, h.canBegin_iff,
    h.contains_follow_eq hexact hexact' hleft]

theorem entries_cell_eq (left t : Symbol) :
    ((g.parsingTable first follow).cell left t).entries =
      ((g'.parsingTable first' follow').cell left t).entries := by
  have hnumbered : g'.numbered left = g.numbered left := by
    rw [numbered, numbered, h.production?_eq]
  rw [h.wellFormed.entries_cell, h.wellFormed'.entries_cell, hnumbered]
  refine List.filter_congr ?_
  rintro ⟨i, a⟩ hentry
  obtain ⟨p, hp, ha⟩ := mem_numbered_iff.mp hentry
  rw [Bool.eq_iff_iff, List.contains_iff_mem, List.contains_iff_mem]
  exact h.mem_lookaheads_iff hexact hexact'
    (mem_rules_of_production? hp (List.mem_of_getElem? ha))

theorem cell_eq (left t : Symbol) :
    (g.parsingTable first follow).cell left t = (g'.parsingTable first' follow').cell left t := by
  rw [← ParsingTable.ofEntries_entries_cell, h.entries_cell_eq hexact hexact',
    ParsingTable.ofEntries_entries_cell]

theorem isLL1_eq :
    (g.parsingTable first follow).isLL1 = (g'.parsingTable first' follow').isLL1 := by
  have hrow : ∀ left, left ∈ (g.parsingTable first follow).nonTerminals ↔
      left ∈ (g'.parsingTable first' follow').nonTerminals := fun _ => h.mem_nonTerminals_iff
  have hcolumn : ∀ t, t ∈ (g.parsingTable first follow).terminals ↔
      t ∈ (g'.parsingTable first' follow').terminals := fun _ => h.mem_terminals_parsingTable_iff
  rw [Bool.eq_iff_iff, ParsingTable.isLL1_iff_length, ParsingTable.isLL1_iff_length]
  simp only [hrow, hcolumn, h.entries_cell_eq hexact hexact']

end Reordered

/-! ### The stages -/

namespace Reordered

variable {config : Config}

theorem stopsAtCycle_iff (h : g.Reordered g') (config : Config) :
    config.StopsAtCycle g ↔ config.StopsAtCycle g' := by
  rw [Config.StopsAtCycle, Config.StopsAtCycle, h.isSome_indirectCycle?_eq]

theorem of_eliminate (h : g.Reordered g') {r r' : Grammar} {removals removals' : List Removal}
    (hr : config.eliminate g = .ok (r, removals))
    (hr' : config.eliminate g' = .ok (r', removals')) : r.Reordered r' := by
  unfold Config.eliminate at hr hr'
  by_cases heliminate : config.eliminateLeftRecursion = true
  · rw [if_pos heliminate] at hr hr'
    rw [eq_eliminated_of_eliminate hr, eq_eliminated_of_eliminate hr']
    exact h.eliminated
  · rw [if_neg heliminate] at hr hr'
    cases hr
    cases hr'
    exact h

end Reordered

end Grammar

open Grammar

theorem Analysis.Stages.exact {g : Grammar} {config : Config} {analysis : Analysis}
    (h : Stages g config analysis) (hg : g.WellFormed) :
    analysis.withoutLeftRecursion.Exact analysis.first analysis.follow := by
  obtain ⟨removals, hr⟩ := h.eliminate
  obtain ⟨_, hfirst⟩ := h.first
  obtain ⟨_, hfollow⟩ := h.follow
  exact (Config.wellFormed_eliminate (h.wellFormed_factored hg) hr).exact hfirst hfollow

/-! ### Analyses -/

/-- Errors with the same cause. The symbols, lines and names that they report may be others. -/
inductive GrammarError.SameKind : GrammarError → GrammarError → Prop
  | malformedLine (line line' : Nat) (fault fault' : LineFault) :
      SameKind (.malformedLine line fault) (.malformedLine line' fault')
  | undefinedNonTerminal (s s' : Symbol) :
      SameKind (.undefinedNonTerminal s) (.undefinedNonTerminal s')
  | indirectLeftRecursion (cycle cycle' : List Symbol) :
      SameKind (.indirectLeftRecursion cycle) (.indirectLeftRecursion cycle')
  | symbol (error error' : SymbolError) : SameKind (.symbol error) (.symbol error')
  | empty : SameKind .empty .empty

namespace Analysis

/-- The same productions, sets and cells for every symbol, and the same symbols. -/
structure Agrees (analysis analysis' : Analysis) : Prop where
  mem_factored_iff : ∀ A, A ∈ analysis.factored.nonTerminals ↔ A ∈ analysis'.factored.nonTerminals
  factored : ∀ A, analysis.factored.production? A = analysis'.factored.production? A
  mem_nonTerminals_iff : ∀ A, A ∈ analysis.withoutLeftRecursion.nonTerminals ↔
    A ∈ analysis'.withoutLeftRecursion.nonTerminals
  withoutLeftRecursion : ∀ A,
    analysis.withoutLeftRecursion.production? A = analysis'.withoutLeftRecursion.production? A
  first : ∀ A ∈ analysis.withoutLeftRecursion.nonTerminals, ∀ s,
    analysis.first.contains A s = analysis'.first.contains A s
  follow : ∀ A ∈ analysis.withoutLeftRecursion.nonTerminals, ∀ s,
    analysis.follow.contains A s = analysis'.follow.contains A s
  mem_terminals_iff : ∀ t, t ∈ analysis.table.terminals ↔ t ∈ analysis'.table.terminals
  cell : ∀ A t, analysis.table.cell A t = analysis'.table.cell A t
  isLL1 : analysis.table.isLL1 = analysis'.table.isLL1

inductive SameOutcome : Except GrammarError Analysis → Except GrammarError Analysis → Prop
  | error {e e' : GrammarError} (h : e.SameKind e') : SameOutcome (.error e) (.error e')
  | ok {analysis analysis' : Analysis} (h : analysis.Agrees analysis') :
      SameOutcome (.ok analysis) (.ok analysis')

variable {g g' : Grammar} {config : Config} {analysis analysis' : Analysis}

theorem SameOutcome.exists_agrees {result : Except GrammarError Analysis}
    (h : SameOutcome (.ok analysis) result) :
    ∃ analysis', result = .ok analysis' ∧ analysis.Agrees analysis' := by
  cases h with
  | ok hagrees => exact ⟨_, rfl, hagrees⟩

theorem Stages.agrees (hstages : Stages g config analysis) (h : g.Reordered g')
    (hstages' : Stages g' config analysis') : analysis.Agrees analysis' := by
  have hfactored : analysis.factored.Reordered analysis'.factored := by
    rw [hstages.factored, hstages'.factored]
    exact h.factorUpTo config.factorPasses
  obtain ⟨removals, hr⟩ := hstages.eliminate
  obtain ⟨removals', hr'⟩ := hstages'.eliminate
  have hlast := hfactored.of_eliminate hr hr'
  have hexact := hstages.exact h.wellFormed
  have hexact' := hstages'.exact h.wellFormed'
  refine ⟨fun _ => hfactored.mem_nonTerminals_iff, hfactored.production?_eq,
    fun _ => hlast.mem_nonTerminals_iff, hlast.production?_eq,
    fun _ hA => hlast.contains_first_eq hexact hexact' hA,
    fun _ hA => hlast.contains_follow_eq hexact hexact' hA, ?_, ?_, ?_⟩
  all_goals rw [hstages.table, hstages'.table]
  · exact fun _ => hlast.mem_terminals_parsingTable_iff
  · exact hlast.cell_eq hexact hexact'
  · exact hlast.isLL1_eq hexact hexact'

/-- The order of the productions decides about nothing but the order of what is found. -/
theorem sameOutcome_of_reordered (h : g.Reordered g') (config : Config) :
    SameOutcome (run g config) (run g' config) := by
  have hg := h.wellFormed
  have hg' := h.wellFormed'
  rcases run_cases hg config with ⟨hstart, hrun⟩ | ⟨s, hstart, hs, hrun⟩ |
    ⟨cycle, hstart, hcomplete, hstops, hrun⟩ | ⟨analysis, hstart, hcomplete, hstops, hrun⟩ <;>
    rw [h.start?_eq] at hstart <;> rw [hrun]
  · rw [run_of_start?_eq_none hstart]
    exact .error .empty
  · obtain ⟨s', hs'⟩ := not_complete_iff.mp (mt h.complete_iff.mpr (not_complete_iff.mpr ⟨s, hs⟩))
    rw [run_of_firstUndefined hstart hs']
    exact .error (.undefinedNonTerminal s s')
  · obtain ⟨cycle', hrun'⟩ := run_of_stopsAtCycle hg' hstart (h.complete_iff.mp hcomplete)
      ((h.stopsAtCycle_iff config).mp hstops)
    rw [hrun']
    exact .error (.indirectLeftRecursion cycle cycle')
  · obtain ⟨analysis', hrun'⟩ := run_of_complete hg' hstart (h.complete_iff.mp hcomplete)
      (mt (h.stopsAtCycle_iff config).mpr hstops)
    rw [hrun']
    exact .ok ((stages_of_run hrun).agrees h (stages_of_run hrun'))

end Analysis

end Predictive
