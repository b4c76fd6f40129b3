import Predictive.Proofs.Grammar.Prepared
import Predictive.Proofs.Reading.Entered
import Predictive.Proofs.Reading.Legible

/-!
# Legible grammars

In a grammar that was read from a text every symbol is legible. Passes and eliminations add
non-terminals only that are named after a left side, with an apostrophe and digits behind it; such a
name may stand on the left side of a production again. So every prepared grammar is legible
(`Prepared.legible`).
-/

namespace Predictive

namespace Grammar

open Reading

variable {g : Grammar}

structure Legible (g : Grammar) : Prop where
  symbol : ∀ s ∈ g.symbols.named, s.Legible
  left : ∀ p ∈ g.productions, p.left.IsLeftName

theorem legible_load (lexing : Lexing) (text : String) : (load lexing text).1.Legible where
  symbol s hs := by
    have hreads := reads_readLines remembers_nil 1 (Text.lines text.toList)
    rcases (mem_named_load_iff hreads).mp hs with ⟨rule, hrule, rfl⟩ | ⟨segment, hsegment, hentered⟩
    · exact (hreads.isLeftName hrule).legible
    · obtain ⟨token, htoken, rfl⟩ := Segment.exists_token_of_mem_entered hentered
      obtain ⟨hbar, harrow⟩ := hreads.segment hsegment
      rcases Token.legible_of_mem_ofText hbar harrow htoken with rfl | hlegible
      · -- The table has no entry for `ε`.
        exact absurd rfl ((wellFormed_load lexing text).symbols.nameable _ hs).ne_epsilon
      · exact hlegible
  left p hp := by
    have hreads := reads_readLines remembers_nil 1 (Text.lines text.toList)
    obtain ⟨table, faults, -, -, -, hload⟩ := load_eq lexing hreads
    rw [hload] at hp
    obtain ⟨left, hleft, rfl⟩ := List.mem_map.mp hp
    obtain ⟨rule, hrule, rfl⟩ := List.mem_map.mp (List.mem_eraseDups.mp hleft)
    exact hreads.isLeftName hrule

namespace Legible

/-- A change keeps a grammar legible when its new symbols are named after left sides, and its left
sides are old or new symbols of that kind. -/
theorem of_candidates {r : Grammar} {new : List Symbol} (h : g.Legible)
    (hnamed : r.symbols.named = g.symbols.named ++ new)
    (hnew : ∀ s ∈ new, ∃ p ∈ g.productions, ∃ n,
      s = .nonTerminal (SymbolTable.candidate p.left.name n))
    (hlefts : ∀ q ∈ r.productions, (∃ p ∈ g.productions, q.left = p.left) ∨ q.left ∈ new) :
    r.Legible := by
  have hnewName : ∀ s ∈ new, s.IsLeftName := by
    intro s hs
    obtain ⟨p, hp, n, rfl⟩ := hnew s hs
    exact (h.left p hp).candidate n
  refine ⟨fun s hs => ?_, fun q hq => ?_⟩
  · rw [hnamed] at hs
    rcases List.mem_append.mp hs with hs | hs
    · exact h.symbol s hs
    · exact (hnewName s hs).legible
  · rcases hlefts q hq with ⟨p, hp, heq⟩ | hmem
    · exact heq ▸ h.left p hp
    · exact hnewName _ hmem

theorem factor (h : g.Legible) : g.factor.Legible := by
  refine h.of_candidates (named_factor g)
    (fun s hs => exists_candidate_of_mem_factorProductions _ _ hs) fun q hq => ?_
  have hleft := (perm_lefts_factorProductions g.symbols g.productions).subset
    (List.mem_map_of_mem (f := Production.left) hq)
  refine (List.mem_append.mp hleft).imp_left fun hmem => ?_
  obtain ⟨p, hp, heq⟩ := List.mem_map.mp hmem
  exact ⟨p, hp, heq.symm⟩

theorem eliminated (h : g.Legible) (hg : g.WellFormed) : g.eliminated.Legible := by
  refine h.of_candidates (named_eliminated g) (fun s hs => ?_) fun q hq => ?_
  · obtain ⟨p, hp, hname⟩ := exists_candidate_of_mem_tails _ _ hs
    exact ⟨p, hg.mem_productionsInOrder.mp hp, hname⟩
  · have hleft := (perm_lefts_eliminateProductions g.symbols g.productionsInOrder).subset
      (List.mem_map_of_mem (f := Production.left) hq)
    refine (List.mem_append.mp hleft).imp_left fun hmem => ?_
    obtain ⟨p, hp, heq⟩ := List.mem_map.mp hmem
    exact ⟨p, hg.mem_productionsInOrder.mp hp, heq.symm⟩

end Legible

theorem Prepared.legible (h : g.Prepared) : g.Legible := by
  induction h with
  | load lexing text => exact legible_load lexing text
  | factor _ ih => exact ih.factor
  | eliminate hprepared hr ih =>
      exact eq_eliminated_of_eliminate hr ▸ ih.eliminated hprepared.wellFormed

end Grammar

end Predictive
