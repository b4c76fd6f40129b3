import Mathlib.Data.List.ProdSigma
import Predictive.Proofs.Parser.Halting
import Predictive.Proofs.Sets.Context

/-!
# What a table holds

A symbol of the input predicts an alternative when the alternative can begin with it, or when the
alternative can vanish and the symbol can follow its left side. `Predicts` says this of given sets.
The cells of a table hold exactly what is predicted, in the order of the production: an alternative
is there once, also where both reasons apply, and two equal alternatives at different positions are
there both.

The conflicts are the cells of the grid with two or more entries, row by row (`conflicts_eq`). That
the grid misses no cell rests on the members of the sets: FIRST of an alternative never has the end
marker and FOLLOW never has `ε`, so every symbol that predicts is a column.
-/

namespace Predictive

def Predicts (first follow : SymbolSets) (left : Symbol) (a : Alternative) (t : Symbol) : Prop :=
  t.IsInput ∧ (t ∈ firstOf first a ∨ .epsilon ∈ firstOf first a ∧ follow.contains left t = true)

theorem Cell.ofEntries_eq_conflict_iff {entries entries' : List Entry} :
    Cell.ofEntries entries = .conflict entries' ↔ entries' = entries ∧ 2 ≤ entries.length := by
  match entries with
  | [] => simp [Cell.ofEntries]
  | [_] => simp [Cell.ofEntries]
  | e :: f :: rest => simp [Cell.ofEntries, eq_comm]

namespace ParsingTable

variable (table : ParsingTable)

theorem rowConflicts_eq (left : Symbol) :
    table.rowConflicts left =
      (table.terminals.filter fun t => 2 ≤ (table.cell left t).entries.length).map fun t =>
        ⟨left, t, (table.cell left t).entries⟩ := by
  rw [rowConflicts, cells, List.filterMap_map, ← List.filterMap_eq_map, List.filterMap_filter]
  refine List.filterMap_congr fun t _ => ?_
  have hcell := table.ofEntries_entries_cell left t
  simp only [Function.comp_apply]
  split
  · next entries heq =>
      rw [← hcell, Cell.ofEntries_eq_conflict_iff] at heq
      rw [if_pos (by simpa using heq.2), heq.1]
  · next hne =>
      rw [if_neg]
      intro hlength
      refine hne (table.cell left t).entries ?_
      exact hcell.symm.trans (Cell.ofEntries_eq_conflict_iff.mpr ⟨rfl, by simpa using hlength⟩)

theorem isLL1_iff_length :
    table.isLL1 = true ↔ ∀ left ∈ table.nonTerminals, ∀ t ∈ table.terminals,
      (table.cell left t).entries.length < 2 := by
  rw [isLL1, List.isEmpty_iff, conflicts, List.flatMap_eq_nil_iff]
  simp only [rowConflicts_eq, List.map_eq_nil_iff, List.filter_eq_nil_iff, decide_eq_true_eq,
    Nat.not_le]

theorem conflicts_eq :
    table.conflicts =
      ((table.nonTerminals ×ˢ table.terminals).filter fun c =>
        2 ≤ (table.cell c.1 c.2).entries.length).map fun c =>
          ⟨c.1, c.2, (table.cell c.1 c.2).entries⟩ := by
  rw [conflicts, SProd.sprod, List.instSProd]
  simp only [List.product, List.filter_flatMap, List.map_flatMap, List.filter_map, List.map_map]
  exact congrArg (List.flatMap · table.nonTerminals) (funext table.rowConflicts_eq)

end ParsingTable

namespace Grammar

variable {g : Grammar} {first follow : SymbolSets}

namespace Saturated

theorem mem_lookaheads_iff (h : g.Saturated first follow) {left t : Symbol} {a : Alternative}
    (hrule : (left, a) ∈ g.rules) :
    t ∈ Predictive.lookaheads first follow left a ↔ Predicts first follow left a t := by
  constructor
  · intro ht
    refine ⟨isInput_of_mem_columns (h.mem_columns hrule ht), ?_⟩
    exact (mem_lookaheads.mp ht).imp_left And.left
  · rintro ⟨hinput, ht⟩
    exact mem_lookaheads.mpr (ht.imp_left fun ht => ⟨ht, hinput.ne_epsilon⟩)

theorem mem_entries_iff (h : g.Saturated first follow) {left t : Symbol} {i : ℕ}
    {a : Alternative} :
    ⟨i, a⟩ ∈ ((g.parsingTable first follow).cell left t).entries ↔
      ∃ p, g.production? left = some p ∧ p.alternatives[i]? = some a ∧
        Predicts first follow left a t := by
  rw [h.wellFormed.entries_cell, List.mem_filter, mem_numbered_iff, List.contains_iff_mem]
  constructor
  · rintro ⟨⟨p, hp, ha⟩, ht⟩
    have hrule := mem_rules_of_production? hp (List.mem_of_getElem? ha)
    exact ⟨p, hp, ha, (h.mem_lookaheads_iff hrule).mp ht⟩
  · rintro ⟨p, hp, ha, ht⟩
    have hrule := mem_rules_of_production? hp (List.mem_of_getElem? ha)
    exact ⟨⟨p, hp, ha⟩, (h.mem_lookaheads_iff hrule).mpr ht⟩

theorem pairwise_entries (h : g.Saturated first follow) (left t : Symbol) :
    ((g.parsingTable first follow).cell left t).entries.Pairwise
      fun e f => e.index < f.index := by
  rw [h.wellFormed.entries_cell]
  exact (g.pairwise_numbered left).filter _

/-- No cell outside the grid has an entry. -/
theorem mem_grid (h : g.Saturated first follow) {left t : Symbol}
    (hne : ((g.parsingTable first follow).cell left t).entries ≠ []) :
    left ∈ (g.parsingTable first follow).nonTerminals ∧
      t ∈ (g.parsingTable first follow).terminals := by
  obtain ⟨entry, hentry⟩ := List.exists_mem_of_ne_nil _ hne
  obtain ⟨hrule, ht⟩ := mem_rules_of_mem_entries hentry
  exact ⟨h.wellFormed.left_mem_of_rule hrule, h.mem_columns hrule ht⟩

theorem nodup_grid (h : g.Saturated first follow) :
    ((g.parsingTable first follow).nonTerminals ×ˢ
      (g.parsingTable first follow).terminals).Nodup := by
  have hnamed := h.wellFormed.symbols.named_nodup
  refine List.Nodup.product h.wellFormed.nonTerminals_nodup ?_
  have hterminals : g.terminals = g.symbols.named.filter Symbol.isTerminal := rfl
  rw [parsingTable, hterminals]
  refine List.nodup_append.mpr ⟨hnamed.filter _, by simp, ?_⟩
  rintro s hs t ht rfl
  obtain rfl := List.mem_singleton.mp ht
  cases (List.mem_filter.mp hs).2

/-- A table is LL(1) when no two positions of a production are predicted on one symbol. -/
theorem isLL1_iff (h : g.Saturated first follow) :
    (g.parsingTable first follow).isLL1 = true ↔
      ∀ p ∈ g.productions, ∀ (i j : ℕ) (a b : Alternative), i ≠ j →
        p.alternatives[i]? = some a → p.alternatives[j]? = some b →
        ∀ t, ¬ (Predicts first follow p.left a t ∧ Predicts first follow p.left b t) := by
  constructor
  · rintro hll1 p hp i j a b hij ha hb t ⟨hta, htb⟩
    have hproduction := h.wellFormed.production?_left hp
    have hentry := h.mem_entries_iff.mpr ⟨p, hproduction, ha, hta⟩
    have hentry' := h.mem_entries_iff.mpr ⟨p, hproduction, hb, htb⟩
    obtain ⟨hleft, ht⟩ := h.mem_grid (List.ne_nil_of_mem hentry)
    exact hij (congrArg Entry.index
      (ParsingTable.entry_eq_of_isLL1 hll1 hleft ht hentry hentry'))
  · intro hdisjoint
    rw [ParsingTable.isLL1_iff_length]
    rintro left - t -
    have hpairwise := h.pairwise_entries left t
    have hmem : ∀ e ∈ ((g.parsingTable first follow).cell left t).entries, ∃ p,
        g.production? left = some p ∧ p.alternatives[e.index]? = some e.alternative ∧
          Predicts first follow left e.alternative t := fun e he => h.mem_entries_iff.mp he
    match hentries : ((g.parsingTable first follow).cell left t).entries with
    | [] => simp
    | [_] => simp
    | e :: f :: rest =>
        rw [hentries] at hpairwise hmem
        exfalso
        obtain ⟨p, hp, he, hte⟩ := hmem e List.mem_cons_self
        obtain ⟨q, hq, hf, htf⟩ := hmem f (List.mem_cons_of_mem _ List.mem_cons_self)
        obtain rfl := Option.some.inj (hp.symm.trans hq)
        obtain rfl := left_of_production?_eq_some hp
        have hlt := (List.pairwise_cons.mp hpairwise).1 f List.mem_cons_self
        exact hdisjoint p (List.mem_of_find?_eq_some hp) _ _ _ _ (Nat.ne_of_lt hlt) he hf t
          ⟨hte, htf⟩

end Saturated

end Grammar

namespace ParsingTable

/-- The cells hold what the sets predict and nothing else, and the conflicts are the cells in which
several positions of a production are predicted. -/
structure Tabulates (table : ParsingTable) (g : Grammar) (first follow : SymbolSets) : Prop where
  ascending : ∀ left t, (table.cell left t).entries.Pairwise fun e f => e.index < f.index
  mem_entries_iff : ∀ left t i a, ⟨i, a⟩ ∈ (table.cell left t).entries ↔
    ∃ p, g.production? left = some p ∧ p.alternatives[i]? = some a ∧
      Predicts first follow left a t
  mem_grid : ∀ left t, (table.cell left t).entries ≠ [] →
    left ∈ table.nonTerminals ∧ t ∈ table.terminals
  grid_nodup : (table.nonTerminals ×ˢ table.terminals).Nodup
  conflicts_eq : table.conflicts =
    ((table.nonTerminals ×ˢ table.terminals).filter fun c =>
      2 ≤ (table.cell c.1 c.2).entries.length).map fun c =>
        ⟨c.1, c.2, (table.cell c.1 c.2).entries⟩
  isLL1_iff : table.isLL1 = true ↔
    ∀ p ∈ g.productions, ∀ (i j : ℕ) (a b : Alternative), i ≠ j →
      p.alternatives[i]? = some a → p.alternatives[j]? = some b →
      ∀ t, ¬ (Predicts first follow p.left a t ∧ Predicts first follow p.left b t)

end ParsingTable

namespace Grammar

theorem Saturated.tabulates {g : Grammar} {first follow : SymbolSets}
    (h : g.Saturated first follow) :
    (g.parsingTable first follow).Tabulates g first follow where
  ascending := h.pairwise_entries
  mem_entries_iff _ _ _ _ := h.mem_entries_iff
  mem_grid _ _ := h.mem_grid
  grid_nodup := h.nodup_grid
  conflicts_eq := ParsingTable.conflicts_eq _
  isLL1_iff := h.isLL1_iff

/-- The table of a grammar is its predict relation. -/
theorem parsingTable_tabulates {g : Grammar} (hg : g.Prepared) (hv : g.validate = .ok ()) :
    ∃ first follow, g.firstSets = .ok first ∧ g.followSets first.value = .ok follow ∧
      (g.parsingTable first.value follow.value).Tabulates g first.value follow.value := by
  obtain ⟨start, hstart⟩ := exists_start_of_validate hv
  have hfirst := firstSets_of_validate hv
  have hfollow := followSets_of_validate hv hstart (g.firstFrom (.ofKeys g.nonTerminals)).value
  exact ⟨_, _, hfirst, hfollow, (hg.wellFormed.saturated hfirst hfollow).tabulates⟩

/-- Whether FIRST and FOLLOW exist and satisfy what is asked of them. -/
def setsSatisfy (g : Grammar) (asked : Grammar → SymbolSets → SymbolSets → Bool) : Bool :=
  match g.firstSets with
  | .error _ => false
  | .ok first =>
    match g.followSets first.value with
    | .error _ => false
    | .ok follow => asked g first.value follow.value

/-- To know something of FIRST and FOLLOW it is enough to compute the one bit. -/
theorem satisfies_of_setsSatisfy {g : Grammar} {asked : Grammar → SymbolSets → SymbolSets → Bool}
    {first follow : Stable SymbolSets} (hfirst : g.firstSets = .ok first)
    (hfollow : g.followSets first.value = .ok follow) (h : g.setsSatisfy asked = true) :
    asked g first.value follow.value = true := by
  simpa only [setsSatisfy, hfirst, hfollow] using h

/-- Two equal alternatives, and each of them is registered on `a` twice over: it can begin with `a`,
and it can vanish in front of `a`. The cell has each of them once. -/
theorem parsingTable_tabulates_twice :
    let g := (load .compact "S -> A a\nA -> B | B\nB -> a | ε").1
    g.validate = .ok () ∧
      ∃ first follow, g.firstSets = .ok first ∧ g.followSets first.value = .ok follow ∧
        (g.parsingTable first.value follow.value).Tabulates g first.value follow.value ∧
        (g.parsingTable first.value follow.value).cell (.nonTerminal "A") (.terminal "a") =
          .conflict [⟨0, [.nonTerminal "B"]⟩, ⟨1, [.nonTerminal "B"]⟩] := by
  have hvalidate :
      (load .compact "S -> A a\nA -> B | B\nB -> a | ε").1.validate = .ok () := by cbv
  have hcell : (load .compact "S -> A a\nA -> B | B\nB -> a | ε").1.setsSatisfy
      (fun g first follow =>
        (g.parsingTable first follow).cell (.nonTerminal "A") (.terminal "a") =
          .conflict [⟨0, [.nonTerminal "B"]⟩, ⟨1, [.nonTerminal "B"]⟩]) = true := by cbv
  obtain ⟨first, follow, hfirst, hfollow, htabulates⟩ :=
    parsingTable_tabulates (.load .compact _) hvalidate
  exact ⟨hvalidate, first, follow, hfirst, hfollow, htabulates,
    of_decide_eq_true (satisfies_of_setsSatisfy hfirst hfollow hcell)⟩

end Grammar

end Predictive
