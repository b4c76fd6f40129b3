import Predictive.Proofs.Factoring.Cycle
import Predictive.Proofs.Grammar.Defined
import Predictive.Proofs.Reordering.Fresh
import Predictive.Proofs.Sets.Context

/-!
# Grammars with their productions in another order

Two grammars are `Reordered` when they have the same start symbol and the same productions and
symbols, the latter two perhaps in another order. Then they have the same rules, so they derive the
same forms, and everything that is told in terms of derivations is the same for both: the members of
FIRST and FOLLOW, indirect left recursion, and whether a grammar is complete.

Factoring and elimination treat every production as if it were the only one, so they lead from
reordered grammars to reordered ones (`Reordered.factor`, `Reordered.eliminated`). In particular the
new non-terminals have the same names on both sides.
-/

namespace Predictive

namespace Grammar

/-- The same productions, symbols and start symbol, the former two perhaps in another order. -/
structure Reordered (g g' : Grammar) : Prop where
  wellFormed : g.WellFormed
  wellFormed' : g'.WellFormed
  productions : g.productions.Perm g'.productions
  named : g.symbols.named.Perm g'.symbols.named
  start?_eq : g.start? = g'.start?

variable {g g' : Grammar}

theorem WellFormed.names_lefts_nodup (hg : g.WellFormed) :
    (g.productions.map fun p => p.left.name).Nodup := by
  have hnodup := hg.lefts_nodup
  rw [List.Nodup, List.pairwise_map] at hnodup ⊢
  refine hnodup.imp_of_mem fun {p q} hp hq hne heq => hne ?_
  have hpleft := (mem_nonTerminals.mp (hg.left_mem p hp)).1
  have hqleft := (mem_nonTerminals.mp (hg.left_mem q hq)).1
  exact List.inj_on_of_nodup_map hg.symbols.nodup hpleft hqleft heq

theorem WellFormed.perm_productionsInOrder (hg : g.WellFormed) :
    g.productionsInOrder.Perm g.productions := by
  have hinorder : g.productionsInOrder.Nodup := by
    refine List.Nodup.of_map Production.left ?_
    rw [lefts_productionsInOrder]
    exact hg.nonTerminals_nodup.filter _
  refine (List.perm_ext_iff_of_nodup hinorder (.of_map _ hg.lefts_nodup)).mpr fun p => ?_
  exact hg.mem_productionsInOrder

namespace Reordered

theorem symm (h : g.Reordered g') : g'.Reordered g :=
  ⟨h.wellFormed', h.wellFormed, h.productions.symm, h.named.symm, h.start?_eq.symm⟩

/-! ### What is the same -/

theorem mem_nonTerminals_iff (h : g.Reordered g') {s : Symbol} :
    s ∈ g.nonTerminals ↔ s ∈ g'.nonTerminals := by
  rw [mem_nonTerminals, mem_nonTerminals, h.named.mem_iff]

theorem production?_eq (h : g.Reordered g') (left : Symbol) :
    g.production? left = g'.production? left := by
  have hiff : ∀ {g : Grammar}, g.WellFormed → ∀ p,
      g.production? left = some p ↔ p ∈ g.productions ∧ p.left = left := fun hg p =>
    ⟨fun hp => ⟨List.mem_of_find?_eq_some hp, left_of_production?_eq_some hp⟩,
      fun ⟨hp, hleft⟩ => hleft ▸ hg.production?_left hp⟩
  ext p
  rw [hiff h.wellFormed, hiff h.wellFormed', h.productions.mem_iff]

theorem mem_rules_iff (h : g.Reordered g') {r : Symbol × Alternative} :
    r ∈ g.rules ↔ r ∈ g'.rules :=
  (h.productions.flatMap_right _).mem_iff

theorem derives_eq (h : g.Reordered g') : g.Derives = g'.Derives := by
  have hstep : ∀ {g g' : Grammar}, g.Reordered g' → ∀ {α β}, g.Rewrites α β → g'.Rewrites α β := by
    intro g g' h α β hαβ
    cases hαβ with
    | expand before after hrule => exact .expand before after (h.mem_rules_iff.mp hrule)
  have heq : g.Rewrites = g'.Rewrites :=
    funext fun α => funext fun β => propext ⟨hstep h, hstep h.symm⟩
  unfold Derives
  rw [heq]

theorem canBegin_iff (h : g.Reordered g') (α : List Symbol) (s : Symbol) :
    g.CanBegin α s ↔ g'.CanBegin α s := by
  unfold CanBegin
  rw [h.derives_eq]

theorem canFollow_iff (h : g.Reordered g') (B s : Symbol) :
    g.CanFollow B s ↔ g'.CanFollow B s := by
  unfold CanFollow
  simp only [h.derives_eq, h.start?_eq, h.productions.mem_iff]

theorem isSome_indirectCycle?_eq (h : g.Reordered g') :
    g.indirectCycle?.isSome = g'.indirectCycle?.isSome := by
  have heq : g.IndirectCorner = g'.IndirectCorner := by
    funext X Y
    simp only [IndirectCorner, Vanishes, h.mem_rules_iff, h.derives_eq]
  rw [Bool.eq_iff_iff, h.wellFormed.isSome_indirectCycle?_iff,
    h.wellFormed'.isSome_indirectCycle?_iff, heq]

theorem complete_iff (h : g.Reordered g') : g.Complete ↔ g'.Complete := by
  simp only [Complete, Undefined, mem_rightSymbols, h.mem_rules_iff, h.productions.mem_iff]

/-! ### What the stages make of it -/

theorem sameCandidates (h : g.Reordered g') (base : String) :
    SymbolTable.SameCandidates base g.symbols g'.symbols :=
  SymbolTable.sameCandidates_of_perm h.named base

theorem factor (h : g.Reordered g') : g.factor.Reordered g'.factor := by
  obtain ⟨hproductions, hsplits⟩ := factorProductions_eq h.wellFormed.names_lefts_nodup
    fun p _ => SymbolTable.SameCandidates.refl p.left.name g.symbols
  obtain ⟨hproductions', hsplits'⟩ := factorProductions_eq h.wellFormed'.names_lefts_nodup
    fun p _ => h.sameCandidates p.left.name
  refine ⟨h.wellFormed.factor, h.wellFormed'.factor, ?_, ?_, h.start?_eq⟩
  · rw [Grammar.factor, Grammar.factor, factorPass, factorPass, hproductions, hproductions']
    exact h.productions.flatMap_right _
  · rw [named_factor, named_factor, factorPass, factorPass, hsplits, hsplits']
    exact h.named.append ((h.productions.flatMap_right _).map _)

theorem iterate_factor (h : g.Reordered g') (n : ℕ) :
    (Grammar.factor^[n] g).Reordered (Grammar.factor^[n] g') := by
  induction n generalizing g g' with
  | zero => exact h
  | succ n ih => exact ih h.factor

theorem factorUpTo (h : g.Reordered g') (limit : ℕ) :
    (g.factorUpTo limit).Reordered (g'.factorUpTo limit) := by
  rw [factorUpTo_eq_iterate, factorUpTo_eq_iterate]
  exact h.iterate_factor limit

theorem productionsInOrder (h : g.Reordered g') :
    g.productionsInOrder.Perm g'.productionsInOrder :=
  h.wellFormed.perm_productionsInOrder.trans
    (h.productions.trans h.wellFormed'.perm_productionsInOrder.symm)

theorem eliminated (h : g.Reordered g') : g.eliminated.Reordered g'.eliminated := by
  have hperm := h.wellFormed.perm_productionsInOrder
  have hperm' := h.wellFormed'.perm_productionsInOrder
  obtain ⟨hproductions, hremovals⟩ := eliminateProductions_eq
    ((hperm.map fun p => p.left.name).nodup_iff.mpr h.wellFormed.names_lefts_nodup)
    fun p _ => SymbolTable.SameCandidates.refl p.left.name g.symbols
  obtain ⟨hproductions', hremovals'⟩ := eliminateProductions_eq
    ((hperm'.map fun p => p.left.name).nodup_iff.mpr h.wellFormed'.names_lefts_nodup)
    fun p _ => h.sameCandidates p.left.name
  refine ⟨h.wellFormed.eliminated, h.wellFormed'.eliminated, ?_, ?_, h.start?_eq⟩
  · rw [Grammar.eliminated, Grammar.eliminated, elimination, elimination, hproductions,
      hproductions']
    exact h.productionsInOrder.flatMap_right _
  · rw [named_eliminated, named_eliminated, Eliminated.tails, Eliminated.tails, elimination,
      elimination, hremovals, hremovals']
    exact h.named.append ((h.productionsInOrder.flatMap_right _).map _)

end Reordered

end Grammar

end Predictive
