import Predictive.Proofs.Analysis
import Predictive.Proofs.Leftmost

/-!
# An LL(1) grammar is unambiguous

Two leftmost derivations of one word part at the first step at which they choose different
positions. Up to there they have the same form, which fits in front of the end marker, and the rest
of the word that the first non-terminal and what stands behind it derive is the same for both. So
both alternatives are in the cell for the first symbol of that rest, or for the end marker if
nothing is left; and a cell that is not in conflict has one entry only.

An entry is an alternative with its position. Equal alternatives at two positions are therefore in
conflict like any others.
-/

namespace Predictive

namespace Grammar

namespace Saturated

variable {g : Grammar} {first follow : SymbolSets}

theorem mem_entries_of_derives (h : g.Saturated first follow) {name : String} {p : Production}
    (hp : g.production? (.nonTerminal name) = some p) {i : ℕ} {a : Alternative}
    (ha : p.alternatives[i]? = some a) {after : List Symbol}
    (hfits : Fits first follow [.endMarker] (.nonTerminal name :: after)) {word : List String}
    (hderives : g.Derives (visible a ++ after) (word.map .terminal)) {next : Symbol}
    (hinput : next.IsInput)
    (hnext : firstOf first (word.map .terminal ++ [.endMarker]) = [next]) :
    next ∈ g.terminals ++ [.endMarker] ∧
      ⟨i, a⟩ ∈ ((g.parsingTable first follow).cell (.nonTerminal name) next).entries := by
  have hlookahead : next ∈ Predictive.lookaheads first follow (.nonTerminal name) a := by
    have hfirst := h.firstClosed.mem_firstOf_of_next hderives hnext
    rw [List.append_assoc, mem_firstOf_append, firstOf_visible] at hfirst
    rw [mem_lookaheads]
    refine hfirst.imp_right fun hafter => ⟨hafter.1, ?_⟩
    exact hfits name after (List.suffix_refl _) next hafter.2 hinput.ne_epsilon
  have hrule := mem_rules_of_production? hp (List.mem_of_getElem? ha)
  exact ⟨h.mem_columns hrule hlookahead, h.wellFormed.mem_entries hp ha hlookahead⟩

/-- Without conflicts, two leftmost steps from a form that go on to the same word are the same. -/
theorem rewritesLeftmost_unique (h : g.Saturated first follow)
    (hll1 : (g.parsingTable first follow).isLL1 = true) {i j : ℕ} {α β γ : List Symbol}
    (hfits : Fits first follow [.endMarker] α) {word : List String}
    (hβ : g.RewritesLeftmost i α β) (hβword : g.Derives β (word.map .terminal))
    (hγ : g.RewritesLeftmost j α γ) (hγword : g.Derives γ (word.map .terminal)) :
    i = j ∧ β = γ := by
  generalize hα : α = α' at hγ
  cases hβ with
  | @expand before hbefore after name p hp a ha =>
      cases hγ with
      | @expand before' hbefore' after' name' p' hp' b hb =>
          obtain ⟨rfl, rfl, rfl⟩ := eq_of_append_nonTerminal_eq hbefore hbefore' hα
          obtain rfl : p = p' := Option.some.inj (hp.symm.trans hp')
          -- Both derive the part of the word that is behind `before`.
          obtain ⟨δ, hδ, hβrest⟩ := (derives_append_of_fixed hbefore).mp hβword
          obtain ⟨δ', hδ', hγrest⟩ := (derives_append_of_fixed hbefore).mp hγword
          obtain rfl : δ = δ' := List.append_cancel_left (hδ.symm.trans hδ')
          obtain ⟨u, v, rfl, -, rfl⟩ := List.map_eq_append_iff.mp hδ
          obtain ⟨next, -, -, hinput, hnext⟩ := exists_next v (t := .endMarker) (.inr rfl) []
          have hsuffix := (fits_append_iff.mp hfits).2
          obtain ⟨hcolumn, hentry⟩ :=
            h.mem_entries_of_derives hp ha hsuffix hβrest hinput (hnext first)
          obtain ⟨-, hentry'⟩ :=
            h.mem_entries_of_derives hp hb hsuffix hγrest hinput (hnext first)
          have hrow : .nonTerminal name ∈ g.nonTerminals :=
            h.wellFormed.left_mem_of_rule (mem_rules_of_production? hp (List.mem_of_getElem? ha))
          have heq := ParsingTable.entry_eq_of_isLL1 hll1 hrow hcolumn hentry hentry'
          cases heq
          exact ⟨rfl, rfl⟩

theorem leftmost_unique (h : g.Saturated first follow)
    (hll1 : (g.parsingTable first follow).isLL1 = true) {positions positions' : List ℕ}
    {α : List Symbol} (hfits : Fits first follow [.endMarker] α) {word : List String}
    (hleft : g.Leftmost positions α (word.map .terminal))
    (hright : g.Leftmost positions' α (word.map .terminal)) : positions = positions' := by
  have hword := isNonTerminal_eq_false_of_mem_word word
  generalize hω : word.map Symbol.terminal = ω at hleft hright hword
  induction hleft generalizing positions' with
  | nil =>
      cases hright with
      | nil => rfl
      | cons hstep _ => exact absurd hword hstep.not_fixed
  | @cons i positions α β ω hstep hrest ih =>
      cases hright with
      | nil => exact absurd hword hstep.not_fixed
      | @cons j positions' _ γ _ hstep' hrest' =>
          obtain ⟨rfl, rfl⟩ := h.rewritesLeftmost_unique hll1 hfits hstep (hω ▸ hrest.derives)
            hstep' (hω ▸ hrest'.derives)
          have hnext := h.followClosed.fits_of_rewrites h.firstClosed hstep.rewrites hfits
          rw [ih hnext hω hrest' hword]

end Saturated

end Grammar

open Grammar

namespace Analysis

/-- A grammar that is reported to be LL(1) is unambiguous: a word has a leftmost derivation from the
start symbol if it is generated, and never two. -/
theorem leftmost_unique_of_isLL1 (lexing : Lexing) (text : String) (config : Config)
    {analysis : Analysis} (h : run (load lexing text).1 config = .ok analysis)
    (hll1 : analysis.table.isLL1 = true) :
    ∃ start, analysis.withoutLeftRecursion.start? = some start ∧ ∀ word : List String,
      (analysis.withoutLeftRecursion.Generates start word ↔
        ∃ positions,
          analysis.withoutLeftRecursion.Leftmost positions [start] (word.map .terminal)) ∧
      ∀ positions positions',
        analysis.withoutLeftRecursion.Leftmost positions [start] (word.map .terminal) →
        analysis.withoutLeftRecursion.Leftmost positions' [start] (word.map .terminal) →
        positions = positions' := by
  have hg := wellFormed_load lexing text
  have hstages := stages_of_run h
  have hsaturated := hstages.saturated hg
  obtain ⟨start, hstart⟩ := hstages.exists_start
  have hstart' := (hstages.keeps hg).start?_eq.trans hstart
  rw [hstages.table] at hll1
  refine ⟨start, hstart', fun word => ⟨?_, ?_⟩⟩
  · exact (exists_leftmost_iff hsaturated.wellFormed).symm
  · intro positions positions' hleft hright
    have hfits : Fits analysis.first analysis.follow [.endMarker] [start] :=
      fits_singleton_endMarker (hsaturated.start start hstart')
    exact hsaturated.leftmost_unique hll1 hfits hleft hright

/-- Sums, made LL(1) by an elimination of left recursion. -/
theorem leftmost_unique_of_isLL1_sum :
    ∃ analysis, run (load .compact "E -> E + x | x").1 {} = .ok analysis ∧
      analysis.table.isLL1 = true ∧ ∃ start, analysis.withoutLeftRecursion.start? = some start ∧
        ∀ word : List String,
          (analysis.withoutLeftRecursion.Generates start word ↔
            ∃ positions,
              analysis.withoutLeftRecursion.Leftmost positions [start] (word.map .terminal)) ∧
          ∀ positions positions',
            analysis.withoutLeftRecursion.Leftmost positions [start] (word.map .terminal) →
            analysis.withoutLeftRecursion.Leftmost positions' [start] (word.map .terminal) →
            positions = positions' := by
  have hll1 : ((run (load .compact "E -> E + x | x").1 {}).toOption.map
      fun analysis => analysis.table.isLL1) = some true := by cbv
  obtain ⟨analysis, h, hll1⟩ := exists_run_of_isLL1 hll1
  exact ⟨analysis, h, hll1, leftmost_unique_of_isLL1 .compact _ {} h hll1⟩

end Analysis

end Predictive
