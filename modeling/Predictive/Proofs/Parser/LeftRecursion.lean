import Predictive.Proofs.Analysis
import Predictive.Proofs.LeftRecursion.Corner
import Predictive.Proofs.Sets.Context

/-!
# A left-recursive grammar is not LL(1)

An LL(1) parser halts, whatever it has on its stack and in its input. A non-terminal that reaches
itself through left corners would keep it busy: when the next symbol of the input is one that the
non-terminal can begin with, the parser may expand its way along the left corners and has the same
non-terminal on top again, with the same input in front of it (`exists_moves_of_transGen`). The
symbols before a left corner are taken off the stack on the way, because they vanish and because
what the left corner begins with may follow them.

So the table has a conflict. It need not be in the row of the non-terminal itself, and none of this
asks where it is.
-/

namespace Predictive

open Grammar

/-- A run from a state that halts does not enter states from which the parser always comes back to
such states. -/
theorem ParsingTable.Halts.not_of_runs {table : ParsingTable} {P : ParserState → Prop}
    (hloops : ∀ s, P s → ∃ s', Relation.TransGen table.Moves s s' ∧ P s') {s : ParserState}
    (h : table.Halts s) : ∀ s', table.Runs s s' → ¬ P s' := by
  induction h with
  | intro s _ ih =>
      intro s' hruns hs'
      rcases Relation.ReflTransGen.cases_head hruns with rfl | ⟨next, hmove, hruns⟩
      · obtain ⟨again, hback, hagain⟩ := hloops s hs'
        obtain ⟨next, hmove, hruns⟩ := Relation.TransGen.head'_iff.mp hback
        exact ih next hmove again hruns hagain
      · exact ih next hmove s' hruns hs'

namespace Grammar

variable {g : Grammar} {first follow : SymbolSets}

/-- What a left corner can begin with is in the FIRST of the alternative that it leads. -/
theorem FirstClosed.mem_firstOf_of_leads (h : g.FirstClosed first) {before after : List Symbol}
    (hbefore : ∀ s ∈ before, g.Vanishes s) {name : String} {s : Symbol} (hs : s ≠ .epsilon)
    (hfirst : first.contains (.nonTerminal name) s = true) :
    s ∈ firstOf first (before ++ .nonTerminal name :: after) := by
  have hvanishes : g.CanBegin before .epsilon := derives_nil_iff_forall_vanishes.mpr hbefore
  have hhead : s ∈ firstOf first (.nonTerminal name :: after) :=
    mem_firstOf_nonTerminal.mpr (.inl ⟨hfirst, hs⟩)
  exact mem_firstOf_append.mpr (.inr ⟨h.mem_firstOf_of_canBegin hvanishes, hhead⟩)

theorem FirstClosed.contains_of_transGen (h : g.FirstClosed first) (hg : g.WellFormed)
    {X : Symbol} {name : String} (hX : Relation.TransGen g.LeftCorner X (.nonTerminal name))
    {s : Symbol} (hs : s ≠ .epsilon) (hfirst : first.contains (.nonTerminal name) s = true) :
    first.contains X s = true := by
  induction hX using Relation.TransGen.head_induction_on with
  | single hcorner =>
      obtain ⟨a, hrule, before, after, rfl, hbefore⟩ := hcorner
      exact h _ _ hrule s (h.mem_firstOf_of_leads hbefore hs hfirst)
  | head hcorner hrest ih =>
      obtain ⟨Z, hZ, -⟩ := Relation.TransGen.head'_iff.mp hrest
      obtain ⟨other, rfl⟩ := hZ.exists_left_eq hg
      obtain ⟨a, hrule, before, after, rfl, hbefore⟩ := hcorner
      exact h _ _ hrule s (h.mem_firstOf_of_leads hbefore hs ih)

namespace Saturated

/-- The parser gets from a left side to a left corner without consuming the next symbol, if the left
corner can begin with it. -/
theorem exists_moves_of_leftCorner (h : g.Saturated first follow) {X : Symbol} {name t : String}
    (hcorner : g.LeftCorner X (.nonTerminal name))
    (hfirst : first.contains (.nonTerminal name) (.terminal t) = true)
    (stack input : List Symbol) :
    ∃ stack', Relation.TransGen (g.parsingTable first follow).Moves
      ⟨X :: stack, .terminal t :: input⟩ ⟨.nonTerminal name :: stack', .terminal t :: input⟩ := by
  obtain ⟨left, rfl⟩ := hcorner.exists_left_eq h.wellFormed
  obtain ⟨a, hrule, before, after, rfl, hbefore⟩ := hcorner
  have hbegin : .terminal t ∈ firstOf first (before ++ .nonTerminal name :: after) :=
    h.firstClosed.mem_firstOf_of_leads hbefore (by simp) hfirst
  have hmem : .terminal t ∈ Predictive.lookaheads first follow (.nonTerminal left)
      (before ++ .nonTerminal name :: after) := mem_lookaheads.mpr (.inl ⟨hbegin, by simp⟩)
  have hexpand := h.wellFormed.expand_moves rfl hrule hmem stack input
  have hvisible : visible (before ++ .nonTerminal name :: after) =
      visible before ++ .nonTerminal name :: visible after := by
    rw [visible_append, visible_cons (by simp)]
  rw [hvisible, List.append_assoc, List.cons_append] at hexpand
  have hfits := h.fits_nil hrule
  rw [hvisible, fits_append_iff, List.append_nil] at hfits
  -- The prefix vanishes, and the next symbol may follow it because the left corner begins with it.
  have hprefix : Fits first follow [.terminal t] (visible before) := by
    refine hfits.1.of_after fun s hs => ?_
    obtain rfl := List.mem_singleton.mp hs
    exact mem_firstOf_nonTerminal.mpr (.inl ⟨hfirst, by simp⟩)
  have hnil : g.Yields (visible before) [] :=
    yields_iff_derives.mpr (derives_nil_iff_forall_vanishes.mpr hbefore)
  have hruns := h.runs_of_vanishes hnil (.inl rfl) hprefix
    (.nonTerminal name :: (visible after ++ stack)) input
  exact ⟨visible after ++ stack, .head' hexpand hruns⟩

theorem exists_moves_of_transGen (h : g.Saturated first follow) {X : Symbol} {name t : String}
    (hX : Relation.TransGen g.LeftCorner X (.nonTerminal name))
    (hfirst : first.contains (.nonTerminal name) (.terminal t) = true)
    (stack input : List Symbol) :
    ∃ stack', Relation.TransGen (g.parsingTable first follow).Moves
      ⟨X :: stack, .terminal t :: input⟩ ⟨.nonTerminal name :: stack', .terminal t :: input⟩ := by
  induction hX using Relation.TransGen.head_induction_on generalizing stack with
  | single hcorner => exact h.exists_moves_of_leftCorner hcorner hfirst stack input
  | head hcorner hrest ih =>
      obtain ⟨Z, hZ, -⟩ := Relation.TransGen.head'_iff.mp hrest
      obtain ⟨other, rfl⟩ := hZ.exists_left_eq h.wellFormed
      have hother := h.firstClosed.contains_of_transGen h.wellFormed hrest (by simp) hfirst
      obtain ⟨between, hmoves⟩ := h.exists_moves_of_leftCorner hcorner hother stack input
      obtain ⟨stack', hmoves'⟩ := ih between
      exact ⟨stack', hmoves.trans hmoves'⟩

/-- A table of a grammar in which a non-terminal reaches itself through left corners, and can begin
with a terminal, has a conflict. -/
theorem isLL1_eq_false (h : g.Saturated first follow) {A : Symbol}
    (hA : Relation.TransGen g.LeftCorner A A) {t : String}
    (hfirst : first.contains A (.terminal t) = true) :
    (g.parsingTable first follow).isLL1 = false := by
  obtain ⟨B, hAB, -⟩ := Relation.TransGen.head'_iff.mp hA
  obtain ⟨name, rfl⟩ := hAB.exists_left_eq h.wellFormed
  by_contra hll1
  have hhalts := h.halts (Bool.not_eq_false _ ▸ hll1) [.nonTerminal name] [.terminal t]
  refine hhalts.not_of_runs
    (P := fun s => ∃ stack, s = ⟨.nonTerminal name :: stack, [.terminal t]⟩) ?_ _ .refl
    ⟨[], rfl⟩
  rintro s ⟨stack, rfl⟩
  obtain ⟨stack', hmoves⟩ := h.exists_moves_of_transGen hA hfirst stack []
  exact ⟨_, hmoves, stack', rfl⟩

end Saturated

theorem leftCorner_of_empty_mem {X Y : Symbol} {name : String} {after : List Symbol}
    (hrule : (X, .nonTerminal name :: Y :: after) ∈ g.rules)
    (hempty : (.nonTerminal name, [.epsilon]) ∈ g.rules) : g.LeftCorner X Y := by
  have hvanishes : g.Vanishes (.nonTerminal name) := by
    refine vanishes_of_rule hempty fun s hs => ?_
    rw [List.mem_singleton.mp hs]
    exact g.vanishes_epsilon
  exact ⟨_, hrule, leads_cons_iff.mpr (.inr ⟨hvanishes, leads_cons_iff.mpr (.inl rfl)⟩)⟩

theorem WellFormed.exists_saturated (hg : g.WellFormed) (hv : g.validate = .ok ()) :
    ∃ first follow, g.firstSets = .ok first ∧ g.followSets first.value = .ok follow ∧
      g.Saturated first.value follow.value := by
  obtain ⟨start, hstart⟩ := exists_start_of_validate hv
  have hfirst := firstSets_of_validate hv
  have hfollow := followSets_of_validate hv hstart (g.firstFrom (.ofKeys g.nonTerminals)).value
  exact ⟨_, _, hfirst, hfollow, hg.saturated hfirst hfollow⟩

end Grammar

namespace Analysis

/-- A grammar with left recursion, direct or not, is never reported to be LL(1), if a symbol on the
cycle can begin with a terminal; neither are the runs that leave left recursion in. -/
theorem isLL1_eq_false_of_leftRecursion (lexing : Lexing) (text : String) :
    (∀ n, (factor^[n] (load lexing text).1).validate = .ok () →
      ∃ first follow, (factor^[n] (load lexing text).1).firstSets = .ok first ∧
        (factor^[n] (load lexing text).1).followSets first.value = .ok follow ∧
        ∀ A, Relation.TransGen (factor^[n] (load lexing text).1).LeftCorner A A →
          ∀ t, first.value.contains A (.terminal t) = true →
            ((factor^[n] (load lexing text).1).parsingTable first.value follow.value).isLL1 =
              false) ∧
    ∀ (config : Config) (analysis : Analysis), config.eliminateLeftRecursion = false →
      run (load lexing text).1 config = .ok analysis →
      ∀ A, Relation.TransGen analysis.withoutLeftRecursion.LeftCorner A A →
        ∀ t, analysis.first.contains A (.terminal t) = true → analysis.table.isLL1 = false := by
  have hg := wellFormed_load lexing text
  constructor
  · intro n hv
    obtain ⟨first, follow, hfirst, hfollow, hsaturated⟩ := (hg.iterate_factor n).exists_saturated hv
    exact ⟨first, follow, hfirst, hfollow, fun A hA t ht => hsaturated.isLL1_eq_false hA ht⟩
  · intro config analysis _ hrun A hA t ht
    have hstages := stages_of_run hrun
    rw [hstages.table]
    exact (hstages.saturated hg).isLL1_eq_false hA ht

/-- The left side comes back behind a symbol that can vanish, and has one alternative only; the
conflict is in the row of the other symbol. -/
theorem isLL1_eq_false_of_leftRecursion_hidden :
    let g := factor^[1] (load .compact "S -> N S\nN -> a | ε").1
    let config : Config := { eliminateLeftRecursion := false }
    g.validate = .ok () ∧
      Relation.TransGen g.LeftCorner (.nonTerminal "S") (.nonTerminal "S") ∧
      (∃ first follow, g.firstSets = .ok first ∧ g.followSets first.value = .ok follow ∧
        first.value.contains (.nonTerminal "S") (.terminal "a") = true ∧
        (g.parsingTable first.value follow.value).isLL1 = false) ∧
      ∃ analysis, run (load .compact "S -> N S\nN -> a | ε").1 config = .ok analysis ∧
        Relation.TransGen analysis.withoutLeftRecursion.LeftCorner (.nonTerminal "S")
          (.nonTerminal "S") ∧
        analysis.first.contains (.nonTerminal "S") (.terminal "a") = true ∧
        analysis.table.isLL1 = false := by
  have hvalidate : (factor^[1] (load .compact "S -> N S\nN -> a | ε").1).validate = .ok () := by
    cbv
  have hrules : (factor^[1] (load .compact "S -> N S\nN -> a | ε").1).rules =
      [(.nonTerminal "S", [.nonTerminal "N", .nonTerminal "S"]),
        (.nonTerminal "N", [.terminal "a"]), (.nonTerminal "N", [.epsilon])] := by cbv
  have hmember : ((factor^[1] (load .compact "S -> N S\nN -> a | ε").1).firstSets.toOption.map
      fun first => first.value.contains (.nonTerminal "S") (.terminal "a")) = some true := by cbv
  have hrun : ((run (load .compact "S -> N S\nN -> a | ε").1
      { eliminateLeftRecursion := false }).toOption.map fun analysis =>
        (analysis.withoutLeftRecursion.rules,
          analysis.first.contains (.nonTerminal "S") (.terminal "a"))) =
      some ([(.nonTerminal "S", [.nonTerminal "N", .nonTerminal "S"]),
        (.nonTerminal "N", [.terminal "a"]), (.nonTerminal "N", [.epsilon])], true) := by cbv
  have hcycle : ∀ g : Grammar, g.rules =
      [(.nonTerminal "S", [.nonTerminal "N", .nonTerminal "S"]),
        (.nonTerminal "N", [.terminal "a"]), (.nonTerminal "N", [.epsilon])] →
      Relation.TransGen g.LeftCorner (.nonTerminal "S") (.nonTerminal "S") := by
    intro g hg
    exact .single (leftCorner_of_empty_mem (by rw [hg]; exact List.mem_cons_self)
      (by rw [hg]; simp))
  obtain ⟨hfactored, hruns⟩ := isLL1_eq_false_of_leftRecursion .compact "S -> N S\nN -> a | ε"
  intro g config
  refine ⟨hvalidate, hcycle g hrules, ?_, ?_⟩
  · obtain ⟨first, follow, hfirst, hfollow, hll1⟩ := hfactored 1 hvalidate
    rw [hfirst] at hmember
    have ht := Option.some.inj hmember
    exact ⟨first, follow, hfirst, hfollow, ht, hll1 _ (hcycle g hrules) "a" ht⟩
  · obtain ⟨analysis, hok, heq⟩ := exists_eq_ok_of_map_toOption hrun
    obtain ⟨hrules', ht⟩ := Prod.mk.inj heq
    have hself := hcycle _ hrules'
    exact ⟨analysis, hok, hself, ht, hruns config analysis rfl hok _ hself "a" ht⟩

end Analysis

end Predictive
