import Predictive.Proofs.Parser.Correct

/-!
# An LL(1) parser halts

Without a conflict in its table a parser has never a choice. That it also comes to an end is not a
matter of the length of its runs on accepted words only: it may have put a non-terminal on the stack
that derives no word, or that cannot be matched with the input, and expansions consume nothing.

But a cell that is not empty says that its non-terminal can vanish, or that it derives a form with
the next symbol in front. In both cases there is a run that does so: it takes the non-terminal off
the stack, or it consumes the symbol. As there is no choice, it is what the parser does. So the
input gets shorter or, for the same input, the stack does.
-/

namespace Predictive

theorem ParsingTable.entry_eq_of_isLL1 {table : ParsingTable} (h : table.isLL1 = true)
    {left s : Symbol} (hleft : left ∈ table.nonTerminals) (hs : s ∈ table.terminals)
    {entry entry' : Entry} (hentry : entry ∈ (table.cell left s).entries)
    (hentry' : entry' ∈ (table.cell left s).entries) : entry = entry' := by
  cases hcell : table.cell left s with
  | empty =>
      rw [hcell] at hentry
      cases hentry
  | unique only =>
      rw [hcell] at hentry hentry'
      rw [List.mem_singleton.mp hentry, List.mem_singleton.mp hentry']
  | conflict entries =>
      have hconflict : ⟨left, s, entries⟩ ∈ table.conflicts := by
        refine List.mem_flatMap.mpr ⟨left, hleft, List.mem_filterMap.mpr ?_⟩
        exact ⟨(s, .conflict entries), (table.mem_cells left s _).mpr ⟨hs, hcell.symm⟩, rfl⟩
      rw [List.isEmpty_iff.mp h] at hconflict
      cases hconflict

namespace Grammar

theorem isInput_of_mem_columns {g : Grammar} {s : Symbol}
    (h : s ∈ g.terminals ++ [.endMarker]) : s.IsInput := by
  rcases List.mem_append.mp h with hs | hs
  · exact .inl (SymbolTable.mem_terminals.mp hs).2
  · exact .inr (List.mem_singleton.mp hs)

namespace Saturated

variable {g : Grammar} {first follow : SymbolSets}

theorem mem_columns (h : g.Saturated first follow) {left s : Symbol} {a : Alternative}
    (hrule : (left, a) ∈ g.rules) (hs : s ∈ Predictive.lookaheads first follow left a) :
    s ∈ g.terminals ++ [.endMarker] := by
  rcases mem_lookaheads.mp hs with ⟨hfirst, hne⟩ | ⟨-, hfollow⟩
  · have hbegin := h.firstSound.mem_firstOf (h.wellFormed.endMarker_notMem hrule) hfirst
    exact List.mem_append_left _
      (hbegin.mem_terminals h.wellFormed (h.wellFormed.mem_named _ hrule) hne)
  · exact h.lookaheads left s hfollow

theorem deterministic (h : g.Saturated first follow)
    (hll1 : (g.parsingTable first follow).isLL1 = true) :
    (g.parsingTable first follow).Deterministic := by
  intro s s₁ s₂ h₁ h₂
  cases h₁ with
  | consume hs stack input =>
      cases h₂ with
      | consume => rfl
      | expand hleft =>
          rw [hs.isNonTerminal_eq_false] at hleft
          cases hleft
  | expand hleft hentry stack input =>
      cases h₂ with
      | consume hs =>
          rw [hs.isNonTerminal_eq_false] at hleft
          cases hleft
      | expand _ hentry' =>
          obtain ⟨hrule, hs⟩ := mem_rules_of_mem_entries hentry
          rw [ParsingTable.entry_eq_of_isLL1 hll1 (h.wellFormed.left_mem_of_rule hrule)
            (h.mem_columns hrule hs) hentry hentry']

/-- A form that derives one with a terminal in front can be taken apart until the terminal is on
top. -/
theorem runs_of_yields_cons (h : g.Saturated first follow) {α β : List Symbol} {name : String}
    (hα : g.Yields α (.terminal name :: β)) (hfits : Fits first follow [] α)
    (stack input : List Symbol) :
    ∃ stack', (g.parsingTable first follow).Runs ⟨α ++ stack, .terminal name :: input⟩
      ⟨.terminal name :: stack', .terminal name :: input⟩ := by
  generalize hδ : Symbol.terminal name :: β = δ at hα
  induction hα generalizing β stack with
  | nil => cases hδ
  | @keep s α _ _ _ =>
      cases hδ
      exact ⟨α ++ stack, .refl⟩
  | @expand left a α β₁ γ hrule ha hα iha ih =>
      have hexpand : ∀ {s : Symbol}, s ∈ Predictive.lookaheads first follow (.nonTerminal left) a →
          (g.parsingTable first follow).Runs ⟨.nonTerminal left :: α ++ stack, s :: input⟩
            ⟨visible a ++ (α ++ stack), s :: input⟩ :=
        fun hs => .single (h.wellFormed.expand_moves rfl hrule hs (α ++ stack) input)
      cases β₁ with
      | nil =>
          -- The non-terminal vanishes, so the terminal is among what follows it.
          obtain rfl : Symbol.terminal name :: β = γ := hδ
          have hvanishes : .epsilon ∈ firstOf first a :=
            h.firstClosed.mem_firstOf_of_canBegin (yields_iff_derives.mp ha)
          have hnext : .terminal name ∈ firstOf first (α ++ []) := by
            rw [List.append_nil]
            exact h.firstClosed.mem_firstOf_of_derives (yields_iff_derives.mp hα)
              List.mem_cons_self
          have hfollow := hfits left α (List.suffix_refl _) _ hnext (by simp)
          have hbody := h.runs_of_vanishes ha (.inl rfl) (h.fits hrule (.inl rfl) hfollow)
            (α ++ stack) input
          obtain ⟨stack', hruns⟩ := ih (hfits.of_suffix (List.suffix_cons _ _)) stack rfl
          exact ⟨stack', (hexpand (mem_lookaheads.mpr (.inr ⟨hvanishes, hfollow⟩))).trans
            (hbody.trans hruns)⟩
      | cons s β₁ =>
          obtain ⟨rfl, -⟩ := List.cons.inj hδ
          have hmem : .terminal name ∈ firstOf first a :=
            h.firstClosed.mem_firstOf_of_canBegin ⟨β₁, yields_iff_derives.mp ha⟩
          obtain ⟨stack', hruns⟩ := iha (h.fits_nil hrule) (α ++ stack) rfl
          exact ⟨stack', (hexpand (mem_lookaheads.mpr (.inl ⟨hmem, by simp⟩))).trans hruns⟩

/-- What a cell offers for a symbol leads to a state with less to match, or with less input. -/
theorem exists_runs_of_lookaheads (h : g.Saturated first follow) {name : String} {s : Symbol}
    {a : Alternative} (hrule : (.nonTerminal name, a) ∈ g.rules)
    (hs : s ∈ Predictive.lookaheads first follow (.nonTerminal name) a)
    (stack input : List Symbol) :
    (g.parsingTable first follow).Runs ⟨.nonTerminal name :: stack, s :: input⟩
        ⟨stack, s :: input⟩ ∨
      ∃ stack', (g.parsingTable first follow).Runs ⟨.nonTerminal name :: stack, s :: input⟩
        ⟨stack', input⟩ := by
  have hexpand := h.wellFormed.expand_moves rfl hrule hs stack input
  have hend := h.wellFormed.endMarker_notMem hrule
  rcases mem_lookaheads.mp hs with ⟨hfirst, hne⟩ | ⟨hvanishes, hfollow⟩
  · have hbegin := h.firstSound.mem_firstOf hend hfirst
    cases s with
    | terminal t =>
        obtain ⟨β, hβ⟩ := hbegin
        obtain ⟨stack', hruns⟩ :=
          h.runs_of_yields_cons (yields_iff_derives.mpr hβ) (h.fits_nil hrule) stack input
        exact .inr ⟨stack', .head hexpand (hruns.tail (.consume (.inl rfl) _ _))⟩
    | epsilon => exact absurd rfl hne
    | endMarker => exact hbegin.elim
    | nonTerminal _ => exact hbegin.elim
  · have hinput := isInput_of_mem_columns (h.mem_columns hrule hs)
    have hnil : g.Yields (visible a) [] :=
      yields_iff_derives.mpr (h.firstSound.mem_firstOf hend hvanishes)
    exact .inl (.head hexpand
      (h.runs_of_vanishes hnil hinput (h.fits hrule hinput hfollow) stack input))

theorem halts (h : g.Saturated first follow)
    (hll1 : (g.parsingTable first follow).isLL1 = true) (stack input : List Symbol) :
    (g.parsingTable first follow).Halts ⟨stack, input⟩ := by
  have hdet := h.deterministic hll1
  induction input generalizing stack with
  | nil =>
      refine Acc.intro _ fun next hmove => ?_
      cases hmove
  | cons s input ihinput =>
      induction stack with
      | nil =>
          refine Acc.intro _ fun next hmove => ?_
          cases hmove
      | cons x stack ihstack =>
          refine Acc.intro _ fun next hmove => ?_
          cases hmove with
          | consume _ _ _ => exact ihinput stack
          | @expand _ _ entry hleft hentry _ _ =>
              obtain ⟨hrule, hs⟩ := mem_rules_of_mem_entries hentry
              obtain ⟨name, rfl⟩ := h.wellFormed.exists_left_eq hrule
              refine ParsingTable.Halts.of_moves ?_ (.expand hleft hentry stack input)
              rcases h.exists_runs_of_lookaheads hrule hs stack input with hruns | ⟨_, hruns⟩
              · exact hdet.halts_of_runs hruns ihstack
              · exact hdet.halts_of_runs hruns (ihinput _)

end Saturated

end Grammar

end Predictive
