import Predictive.Proofs.Analysis
import Predictive.Proofs.Factoring.Cycle
import Predictive.Proofs.Grammar.Defined
import Predictive.Proofs.Sets.Context

/-!
# What a run comes to

An analysis stops at the first thing that it cannot deal with: a grammar without start symbol, a
non-terminal without production, or indirect left recursion if left recursion is to be eliminated.
All three can be read off the grammar that was given. The last is looked for in the factored
grammar, but passes neither make nor hide it, and what the stages make of a complete grammar is
complete, so none of them stops at the result of another.
-/

namespace Predictive

open Grammar

namespace Config

variable {config : Config} {g : Grammar}

def StopsAtCycle (config : Config) (g : Grammar) : Prop :=
  config.eliminateLeftRecursion = true ∧ g.indirectCycle?.isSome = true

theorem exists_cycle_of_eliminate (h : config.StopsAtCycle g) :
    ∃ cycle, config.eliminate g = .error (.indirectLeftRecursion cycle) := by
  obtain ⟨heliminate, hsome⟩ := h
  obtain ⟨cycle, hcycle⟩ := Option.isSome_iff_exists.mp hsome
  refine ⟨cycle, ?_⟩
  rw [eliminate, if_pos heliminate, Grammar.eliminate, hcycle]

theorem exists_eliminate_eq (hg : g.WellFormed) (hstart : g.start? ≠ none) (hcomplete : g.Complete)
    (h : ¬ config.StopsAtCycle g) :
    ∃ r removals, config.eliminate g = .ok (r, removals) ∧ r.validate = .ok () := by
  by_cases heliminate : config.eliminateLeftRecursion = true
  · have hnone : g.indirectCycle? = none := by
      simpa [StopsAtCycle, heliminate] using h
    refine ⟨g.eliminated, g.elimination.removals, ?_, ?_⟩
    · rw [eliminate, if_pos heliminate, eliminate_eq_of_indirectCycle? hnone]
    · exact validate_of_complete hstart (hcomplete.eliminated hg)
  · exact ⟨g, [], if_neg heliminate, validate_of_complete hstart hcomplete⟩

end Config

namespace Analysis

variable {g : Grammar} {config : Config}

theorem run_of_validate_eq_error {e : GrammarError} (h : g.validate = .error e) :
    run g config = .error e := by
  rw [run, h]
  rfl

theorem run_of_eliminate_eq_error {e : GrammarError} (hv : g.validate = .ok ())
    (h : config.eliminate (g.factorUpTo config.factorPasses) = .error e) :
    run g config = .error e := by
  rw [run, hv]
  simp only [bind, Except.bind, h]

theorem exists_run_of_eliminate (hv : g.validate = .ok ()) {last : Grammar}
    {removals : List Removal}
    (h : config.eliminate (g.factorUpTo config.factorPasses) = .ok (last, removals))
    (hlast : last.validate = .ok ()) : ∃ analysis, run g config = .ok analysis := by
  -- Both sets are computed of the last grammar, and each of them validates it once more.
  obtain ⟨start, hstart⟩ := exists_start_of_validate hlast
  rw [run, hv]
  simp only [bind, Except.bind, h, firstSets_of_validate hlast,
    followSets_of_validate hlast hstart]
  exact ⟨_, rfl⟩

theorem stopsAtCycle_factorUpTo_iff (hg : g.WellFormed) :
    config.StopsAtCycle (g.factorUpTo config.factorPasses) ↔ config.StopsAtCycle g := by
  obtain ⟨n, hn⟩ := exists_factorUpTo_eq config.factorPasses g
  rw [Config.StopsAtCycle, Config.StopsAtCycle, hn, hg.isSome_indirectCycle?_iterate_factor n]

/-! ### The four outcomes -/

theorem run_of_start?_eq_none (h : g.start? = none) : run g config = .error .empty :=
  run_of_validate_eq_error (validate_of_start?_eq_none h)

theorem run_of_firstUndefined (hstart : g.start? ≠ none) {s : Symbol} (hs : g.FirstUndefined s) :
    run g config = .error (.undefinedNonTerminal s) :=
  run_of_validate_eq_error (validate_of_firstUndefined hstart hs)

theorem run_of_stopsAtCycle (hg : g.WellFormed) (hstart : g.start? ≠ none)
    (hcomplete : g.Complete) (h : config.StopsAtCycle g) :
    ∃ cycle, run g config = .error (.indirectLeftRecursion cycle) := by
  obtain ⟨cycle, hcycle⟩ :=
    Config.exists_cycle_of_eliminate ((stopsAtCycle_factorUpTo_iff hg).mpr h)
  exact ⟨cycle, run_of_eliminate_eq_error (validate_of_complete hstart hcomplete) hcycle⟩

theorem run_of_complete (hg : g.WellFormed) (hstart : g.start? ≠ none) (hcomplete : g.Complete)
    (h : ¬ config.StopsAtCycle g) : ∃ analysis, run g config = .ok analysis := by
  obtain ⟨n, hn⟩ := exists_factorUpTo_eq config.factorPasses g
  have hfactored := hn ▸ hcomplete.iterate_factor n
  have hstart' : (g.factorUpTo config.factorPasses).start? ≠ none := by
    rw [hn, (hg.keeps_iterate_factor n).start?_eq]
    exact hstart
  obtain ⟨last, removals, heliminate, hlast⟩ := Config.exists_eliminate_eq
    (hn ▸ hg.iterate_factor n) hstart' hfactored (mt (stopsAtCycle_factorUpTo_iff hg).mp h)
  exact exists_run_of_eliminate (validate_of_complete hstart hcomplete) heliminate hlast

/-- One of four things is the case, and each of them settles the run. -/
theorem run_cases (hg : g.WellFormed) (config : Config) :
    (g.start? = none ∧ run g config = .error .empty) ∨
      (∃ s, g.start? ≠ none ∧ g.FirstUndefined s ∧
        run g config = .error (.undefinedNonTerminal s)) ∨
      (∃ cycle, g.start? ≠ none ∧ g.Complete ∧ config.StopsAtCycle g ∧
        run g config = .error (.indirectLeftRecursion cycle)) ∨
      ∃ analysis, g.start? ≠ none ∧ g.Complete ∧ ¬ config.StopsAtCycle g ∧
        run g config = .ok analysis := by
  by_cases hstart : g.start? = none
  · exact .inl ⟨hstart, run_of_start?_eq_none hstart⟩
  by_cases hcomplete : g.Complete
  · by_cases hstops : config.StopsAtCycle g
    · obtain ⟨cycle, hrun⟩ := run_of_stopsAtCycle hg hstart hcomplete hstops
      exact .inr (.inr (.inl ⟨cycle, hstart, hcomplete, hstops, hrun⟩))
    · obtain ⟨analysis, hrun⟩ := run_of_complete hg hstart hcomplete hstops
      exact .inr (.inr (.inr ⟨analysis, hstart, hcomplete, hstops, hrun⟩))
  · obtain ⟨s, hs⟩ := not_complete_iff.mp hcomplete
    exact .inr (.inl ⟨s, hstart, hs, run_of_firstUndefined hstart hs⟩)

section Outcomes

variable (hg : g.WellFormed)
include hg

theorem run_eq_empty_iff : run g config = .error .empty ↔ g.start? = none := by
  refine ⟨fun h => ?_, run_of_start?_eq_none⟩
  rcases run_cases hg config with ⟨hstart, hrun⟩ | ⟨s, -, -, hrun⟩ | ⟨cycle, -, -, -, hrun⟩ |
    ⟨analysis, -, -, -, hrun⟩ <;> rw [hrun] at h <;> cases h
  exact hstart

theorem run_eq_undefinedNonTerminal_iff {s : Symbol} :
    run g config = .error (.undefinedNonTerminal s) ↔ g.start? ≠ none ∧ g.FirstUndefined s := by
  refine ⟨fun h => ?_, fun h => run_of_firstUndefined h.1 h.2⟩
  rcases run_cases hg config with ⟨-, hrun⟩ | ⟨t, hstart, ht, hrun⟩ | ⟨cycle, -, -, -, hrun⟩ |
    ⟨analysis, -, -, -, hrun⟩ <;> rw [hrun] at h <;> cases h
  exact ⟨hstart, ht⟩

theorem run_eq_indirectLeftRecursion_iff :
    (∃ cycle, run g config = .error (.indirectLeftRecursion cycle)) ↔
      g.start? ≠ none ∧ g.Complete ∧ config.StopsAtCycle g := by
  refine ⟨?_, fun h => run_of_stopsAtCycle hg h.1 h.2.1 h.2.2⟩
  rintro ⟨cycle, h⟩
  rcases run_cases hg config with ⟨-, hrun⟩ | ⟨t, -, -, hrun⟩ |
    ⟨cycle, hstart, hcomplete, hstops, hrun⟩ | ⟨analysis, -, -, -, hrun⟩ <;>
    rw [hrun] at h <;> cases h
  exact ⟨hstart, hcomplete, hstops⟩

theorem run_eq_ok_iff :
    (∃ analysis, run g config = .ok analysis) ↔
      g.start? ≠ none ∧ g.Complete ∧ ¬ config.StopsAtCycle g := by
  refine ⟨?_, fun h => run_of_complete hg h.1 h.2.1 h.2.2⟩
  rintro ⟨analysis, h⟩
  rcases run_cases hg config with ⟨-, hrun⟩ | ⟨t, -, -, hrun⟩ | ⟨cycle, -, -, -, hrun⟩ |
    ⟨analysis, hstart, hcomplete, hstops, hrun⟩ <;> rw [hrun] at h <;> cases h
  exact ⟨hstart, hcomplete, hstops⟩

end Outcomes

/-- What a run comes to is decided by the grammar that was read, whatever the number of passes. The
passes and the elimination give grammars that the stages after them can take. -/
theorem run_outcome (lexing : Lexing) (text : String) (config : Config) :
    let g := (load lexing text).1
    (run g config = .error .empty ↔ g.start? = none) ∧
      ((∃ s, run g config = .error (.undefinedNonTerminal s)) ↔
        g.start? ≠ none ∧ ∃ s ∈ g.rightSymbols, g.Undefined s) ∧
      (∀ s, run g config = .error (.undefinedNonTerminal s) → g.FirstUndefined s) ∧
      ((∃ cycle, run g config = .error (.indirectLeftRecursion cycle)) ↔
        g.start? ≠ none ∧ (∀ s ∈ g.rightSymbols, ¬ g.Undefined s) ∧
          config.eliminateLeftRecursion = true ∧ g.indirectCycle?.isSome = true) ∧
      ((∃ analysis, run g config = .ok analysis) ↔
        g.start? ≠ none ∧ (∀ s ∈ g.rightSymbols, ¬ g.Undefined s) ∧
          ¬ (config.eliminateLeftRecursion = true ∧ g.indirectCycle?.isSome = true)) ∧
      (∀ passes, (∃ analysis, run g { config with factorPasses := passes } = .ok analysis) ↔
        ∃ analysis, run g config = .ok analysis) ∧
      ∀ n, (Grammar.factor^[n] g).indirectCycle?.isSome = g.indirectCycle?.isSome ∧
        (Grammar.factor^[n] g).SuffixesEnter ∧ (Grammar.factor^[n] g).TailsEnter := by
  intro g
  have hg : g.WellFormed := wellFormed_load lexing text
  refine ⟨run_eq_empty_iff hg, ?_, fun s hs => ((run_eq_undefinedNonTerminal_iff hg).mp hs).2,
    run_eq_indirectLeftRecursion_iff hg, run_eq_ok_iff hg, fun passes => ?_, fun n => ⟨?_, ?_, ?_⟩⟩
  · have hundefined : (∃ s ∈ g.rightSymbols, g.Undefined s) ↔ ∃ s, g.FirstUndefined s := by
      rw [← not_complete_iff]
      simp [Complete]
    simp only [run_eq_undefinedNonTerminal_iff hg, exists_and_left, hundefined]
  · rw [run_eq_ok_iff hg, run_eq_ok_iff hg]
    rfl
  · exact hg.isSome_indirectCycle?_iterate_factor n
  · exact (hg.iterate_factor n).suffixesEnter
  · exact (hg.iterate_factor n).tailsEnter

end Analysis

end Predictive
