import Predictive.Analysis
import Predictive.Proofs.LeftRecursion.Language
import Predictive.Proofs.Parser.Halting

/-!
# The table of an analysis parses the given grammar

The table is made for the last grammar of an analysis, but the words that it is about are those of
the grammar that was given: every stage keeps the start symbol and its words.
-/

namespace Predictive

open Grammar

namespace Config

variable {config : Config} {g r : Grammar} {removals : List Removal}

theorem eliminate_eq_ok (h : config.eliminate g = .ok (r, removals)) :
    r = g ∨ g.eliminate = .ok (r, removals) := by
  unfold eliminate at h
  split at h
  · exact .inr h
  · cases h
    exact .inl rfl

theorem wellFormed_eliminate (hg : g.WellFormed) (h : config.eliminate g = .ok (r, removals)) :
    r.WellFormed := by
  rcases eliminate_eq_ok h with rfl | h
  · exact hg
  · exact eq_eliminated_of_eliminate h ▸ hg.eliminated

theorem keeps_eliminate (hg : g.WellFormed) (h : config.eliminate g = .ok (r, removals)) :
    g.Keeps r := by
  rcases eliminate_eq_ok h with rfl | h
  · exact .refl r
  · exact eq_eliminated_of_eliminate h ▸ hg.keeps_eliminated

end Config

namespace Analysis

variable {g : Grammar} {config : Config} {analysis : Analysis}

structure Stages (g : Grammar) (config : Config) (analysis : Analysis) : Prop where
  validate : g.validate = .ok ()
  given : analysis.given = g
  factored : analysis.factored = g.factorUpTo config.factorPasses
  eliminate : ∃ removals,
    config.eliminate analysis.factored = .ok (analysis.withoutLeftRecursion, removals)
  first : ∃ passes, analysis.withoutLeftRecursion.firstSets = .ok ⟨analysis.first, passes⟩
  follow : ∃ passes,
    analysis.withoutLeftRecursion.followSets analysis.first = .ok ⟨analysis.follow, passes⟩
  table : analysis.table =
    analysis.withoutLeftRecursion.parsingTable analysis.first analysis.follow

theorem stages_of_run (h : run g config = .ok analysis) : Stages g config analysis := by
  simp only [run, bind_eq_ok_iff] at h
  obtain ⟨_, hvalidate, ⟨last, removals⟩, heliminate, first, hfirst, follow, hfollow,
    hanalysis⟩ := h
  cases hanalysis
  exact ⟨hvalidate, rfl, rfl, ⟨removals, heliminate⟩, ⟨first.passes, hfirst⟩,
    ⟨follow.passes, hfollow⟩, rfl⟩

namespace Stages

theorem wellFormed_factored (h : Stages g config analysis) (hg : g.WellFormed) :
    analysis.factored.WellFormed := by
  obtain ⟨n, hn⟩ := exists_factorUpTo_eq config.factorPasses g
  rw [h.factored, hn]
  exact hg.iterate_factor n

/-- The last grammar of an analysis keeps the words of the first. -/
theorem keeps (h : Stages g config analysis) (hg : g.WellFormed) :
    g.Keeps analysis.withoutLeftRecursion := by
  obtain ⟨n, hn⟩ := exists_factorUpTo_eq config.factorPasses g
  have hfactored : g.Keeps analysis.factored := by
    rw [h.factored, hn]
    exact hg.keeps_iterate_factor n
  obtain ⟨removals, hr⟩ := h.eliminate
  exact hfactored.trans (Config.keeps_eliminate (h.wellFormed_factored hg) hr)

theorem saturated (h : Stages g config analysis) (hg : g.WellFormed) :
    analysis.withoutLeftRecursion.Saturated analysis.first analysis.follow := by
  obtain ⟨removals, hr⟩ := h.eliminate
  obtain ⟨_, hfirst⟩ := h.first
  obtain ⟨_, hfollow⟩ := h.follow
  exact (Config.wellFormed_eliminate (h.wellFormed_factored hg) hr).saturated hfirst hfollow

theorem exists_start (h : Stages g config analysis) : ∃ start, g.start? = some start :=
  exists_start_of_validate h.validate

end Stages

/-- To know that a run succeeds with an LL(1) table it is enough to compute the one bit. -/
theorem exists_run_of_isLL1
    (h : ((run g config).toOption.map fun analysis => analysis.table.isLL1) = some true) :
    ∃ analysis, run g config = .ok analysis ∧ analysis.table.isLL1 = true :=
  exists_eq_ok_of_map_toOption h

/-- The parser of an analysis accepts the words of the grammar that was read, and no others. When
its table is LL(1) it never has a choice, and it halts on every input. -/
theorem accepts_iff_generates (lexing : Lexing) (text : String) (config : Config)
    {analysis : Analysis} (h : run (load lexing text).1 config = .ok analysis) :
    ∃ start, (load lexing text).1.start? = some start ∧
      (∀ word, analysis.table.Accepts start word ↔ (load lexing text).1.Generates start word) ∧
      (analysis.table.isLL1 = true → analysis.table.Deterministic ∧
        ∀ word, analysis.table.Halts (.initial start word)) := by
  have hg := wellFormed_load lexing text
  have hstages := stages_of_run h
  have hkeeps := hstages.keeps hg
  have hsaturated := hstages.saturated hg
  obtain ⟨start, hstart⟩ := hstages.exists_start
  rw [hstages.table]
  refine ⟨start, hstart, fun word => ?_, fun hll1 => ?_⟩
  · rw [hsaturated.accepts_iff (hkeeps.start?_eq.trans hstart) word]
    exact hkeeps.generates_iff start (hg.start_mem start hstart) word
  · exact ⟨hsaturated.deterministic hll1, fun word => hsaturated.halts hll1 _ _⟩

/-- Sums, left-recursive as they are written. -/
theorem accepts_iff_generates_sum :
    ∃ analysis, run (load .compact "E -> E + x | x").1 {} = .ok analysis ∧
      analysis.table.isLL1 = true ∧ ∃ start,
        (load .compact "E -> E + x | x").1.start? = some start ∧
        (∀ word, analysis.table.Accepts start word ↔
          (load .compact "E -> E + x | x").1.Generates start word) ∧
        analysis.table.Deterministic ∧ ∀ word, analysis.table.Halts (.initial start word) := by
  have hll1 : ((run (load .compact "E -> E + x | x").1 {}).toOption.map
      fun analysis => analysis.table.isLL1) = some true := by cbv
  cases h : run (load .compact "E -> E + x | x").1 {} with
  | error e =>
      rw [h] at hll1
      cases hll1
  | ok analysis =>
      rw [h] at hll1
      have hll1 : analysis.table.isLL1 = true := Option.some.inj hll1
      obtain ⟨start, hstart, haccepts, hparser⟩ := accepts_iff_generates .compact _ {} h
      exact ⟨analysis, rfl, hll1, start, hstart, haccepts, hparser hll1⟩

end Analysis

end Predictive
