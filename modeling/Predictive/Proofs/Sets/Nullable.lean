import Predictive.Proofs.Factoring.Sets
import Predictive.Proofs.LeftRecursion.Corner

/-!
# Two searches for what vanishes

Whether a non-terminal vanishes is found out twice: the search for left recursion collects the
nullable symbols by themselves, and FIRST has `ε` in the sets of the non-terminals that vanish. The
one goes over the productions and skips those whose left side it knows, and an alternative counts as
a whole or not at all; the other goes over all rules every time, and reads an alternative up to the
first symbol that does not vanish. Both find the non-terminals that derive the empty form, so they
say the same of every symbol (`Exact.mem_nullable_iff`).

Factoring and an elimination keep all languages. So the non-terminals of the old grammar vanish in
the new one as before, and both searches find the same ones again (`KeepsNullable`).
-/

namespace Predictive

namespace Grammar

variable {g r : Grammar} {first follow first' follow' : SymbolSets}

theorem WellFormed.nullableUpdate_subset (hg : g.WellFormed) {p : Production}
    (hp : p ∈ g.productions) {known : List Symbol} (hknown : known ⊆ g.nonTerminals) :
    (nullableUpdate p known).1 ⊆ g.nonTerminals := by
  rcases nullableUpdate_cases p known with ⟨h, -⟩ | ⟨h, -⟩
  · rw [h]
    exact List.cons_subset.mpr ⟨hg.left_mem p hp, hknown⟩
  · rw [h]
    exact hknown

theorem WellFormed.nullable_subset (hg : g.WellFormed) : g.nullable ⊆ g.nonTerminals := by
  refine untilStable_of_step (P := (· ⊆ g.nonTerminals)) _ _ _ _ ?_ (List.nil_subset _)
  intro known hknown
  exact sweep_of_update (P := (· ⊆ g.nonTerminals))
    (fun _ hp _ => hg.nullableUpdate_subset hp) hknown

theorem WellFormed.mem_nullable_iff_vanishes (hg : g.WellFormed) {A : Symbol}
    (hA : A ∈ g.nonTerminals) : A ∈ g.nullable ↔ g.Vanishes A := by
  obtain ⟨name, rfl⟩ := exists_eq_of_mem_nonTerminals hA
  exact hg.mem_nullable_iff (by simp)

namespace Exact

theorem contains_epsilon_iff (h : g.Exact first follow) {A : Symbol} (hA : A ∈ g.nonTerminals) :
    first.contains A .epsilon = true ↔ g.Vanishes A := by
  constructor
  · exact h.firstSound A .epsilon
  · intro hvanishes
    obtain ⟨name, rfl⟩ := exists_eq_of_mem_nonTerminals hA
    exact mem_firstOf_singleton.mp (h.firstClosed.mem_firstOf_of_canBegin hvanishes)

theorem mem_nullable_iff (h : g.Exact first follow) (hg : g.WellFormed) {A : Symbol} :
    A ∈ g.nullable ↔ A ∈ g.nonTerminals ∧ first.contains A .epsilon = true := by
  constructor
  · intro hA
    have hmem := hg.nullable_subset hA
    exact ⟨hmem, (h.contains_epsilon_iff hmem).mpr ((hg.mem_nullable_iff_vanishes hmem).mp hA)⟩
  · rintro ⟨hmem, hA⟩
    exact (hg.mem_nullable_iff_vanishes hmem).mpr ((h.contains_epsilon_iff hmem).mp hA)

end Exact

structure KeepsNullable (g r : Grammar) (first first' : SymbolSets) : Prop where
  nullable : ∀ A ∈ g.nonTerminals, (A ∈ r.nullable ↔ A ∈ g.nullable)
  contains : ∀ A ∈ g.nonTerminals, first'.contains A .epsilon = first.contains A .epsilon

theorem Keeps.keepsNullable (hkeeps : g.Keeps r) (hg : g.WellFormed) (hr : r.WellFormed)
    (h : g.Exact first follow) (h' : r.Exact first' follow') :
    g.KeepsNullable r first first' := by
  have hvanishes : ∀ A ∈ g.nonTerminals, (r.Vanishes A ↔ g.Vanishes A) := fun A hA =>
    hkeeps.vanishes_iff (.inr (mem_nonTerminals.mp hA).1)
  constructor
  · intro A hA
    rw [hg.mem_nullable_iff_vanishes hA, hr.mem_nullable_iff_vanishes (hkeeps.subset hA)]
    exact hvanishes A hA
  · intro A hA
    rw [Bool.eq_iff_iff, h.contains_epsilon_iff hA, h'.contains_epsilon_iff (hkeeps.subset hA)]
    exact hvanishes A hA

/-- The two searches agree on every valid grammar, and factoring or eliminating left recursion
changes the answer of neither for a non-terminal that was there before. -/
theorem mem_nullable_iff_contains_epsilon (hg : g.Prepared) (hv : g.validate = .ok ()) :
    ∃ first, g.firstSets = .ok first ∧
      (∀ A, A ∈ g.nullable ↔ A ∈ g.nonTerminals ∧ first.value.contains A .epsilon = true) ∧
      ∀ r, (r = g.factor ∨ ∃ removals, g.eliminate = .ok (r, removals)) →
        ∃ first', r.firstSets = .ok first' ∧
          (∀ A, A ∈ r.nullable ↔ A ∈ r.nonTerminals ∧ first'.value.contains A .epsilon = true) ∧
          g.KeepsNullable r first.value first'.value := by
  have hwell := hg.wellFormed
  obtain ⟨first, follow, hfirst, -, h⟩ := hwell.exists_exact hv
  refine ⟨first, hfirst, fun A => h.mem_nullable_iff hwell, fun r hchange => ?_⟩
  have hkeeps : g.Keeps r ∧ r.WellFormed ∧ r.validate = .ok () := by
    rcases hchange with rfl | ⟨removals, hr⟩
    · exact ⟨hwell.keeps_factor, hwell.factor, validate_factor hv⟩
    · obtain rfl := eq_eliminated_of_eliminate hr
      exact ⟨hwell.keeps_eliminated, hwell.eliminated, validate_eliminated hwell hv⟩
  obtain ⟨hkeeps, hr, hvalid⟩ := hkeeps
  obtain ⟨first', follow', hfirst', -, h'⟩ := hr.exists_exact hvalid
  exact ⟨first', hfirst', fun A => h'.mem_nullable_iff hr, hkeeps.keepsNullable hwell hr h h'⟩

/-- One non-terminal vanishes, and the elimination adds another that does. -/
theorem mem_nullable_iff_contains_epsilon_tail :
    let g := (load .compact "S -> S A | A b\nA -> a | ε").1
    g.validate = .ok () ∧ g.eliminate = .ok (g.eliminated, g.elimination.removals) ∧
      ∃ first first', g.firstSets = .ok first ∧ g.eliminated.firstSets = .ok first' ∧
        (∀ A, A ∈ g.nullable ↔ A ∈ g.nonTerminals ∧ first.value.contains A .epsilon = true) ∧
        (∀ A, A ∈ g.eliminated.nullable ↔
          A ∈ g.eliminated.nonTerminals ∧ first'.value.contains A .epsilon = true) ∧
        g.KeepsNullable g.eliminated first.value first'.value := by
  have hv : (load .compact "S -> S A | A b\nA -> a | ε").1.validate = .ok () := by cbv
  have hnone : (load .compact "S -> S A | A b\nA -> a | ε").1.indirectCycle? = none := by cbv
  intro g
  have heliminate := eliminate_eq_of_indirectCycle? hnone
  obtain ⟨first, hfirst, hnullable, hall⟩ :=
    mem_nullable_iff_contains_epsilon (.load .compact _) hv
  obtain ⟨first', hfirst', hnullable', hkeeps⟩ := hall _ (.inr ⟨_, heliminate⟩)
  exact ⟨hv, heliminate, first, first', hfirst, hfirst', hnullable, hnullable', hkeeps⟩

end Grammar

end Predictive
