import Mathlib.Order.Bounds.Defs
import Predictive.Proofs.Analysis
import Predictive.Proofs.Factoring.Grouping

/-!
# How many factoring passes are needed

A pass need not make a grammar smaller. What it makes smaller is `overlap`, and by exactly one
(`overlap_factor`): not by more, because the members of a group share one symbol more than their
suffixes do, and no others share anything. Where nothing is shared a pass changes nothing
(`factor_eq_self_iff`). So the overlap of a grammar is the number of passes that change something,
and both loops, the one that watches for a change and the one that counts, do these passes and no
others that matter.

`overlap` is computed pair by pair with `sharedLength`. In a well-formed grammar it is the greatest
length of a common prefix of two alternatives at different positions
(`WellFormed.isGreatest_overlap`).
-/

namespace Predictive

open Grammar

/-- When a step reports a change exactly where there is room left and takes one unit of it, a search
takes as many steps as there is room, and one more that changes nothing. -/
theorem untilStable_eq_iterate {α : Type} (step : α → α × Bool) (invariant : α → Prop)
    (room : α → ℕ) (keeps : ∀ a, invariant a → invariant (step a).1)
    (shrinks : ∀ a, invariant a → (step a).2 = true → room (step a).1 < room a)
    (hchange : ∀ a, (step a).2 = true ↔ 0 < room a) (hroom : ∀ a, room (step a).1 = room a - 1)
    (a : α) (ha : invariant a) :
    (untilStable step invariant room keeps shrinks a ha).value =
        (fun a => (step a).1)^[room a + 1] a ∧
      (untilStable step invariant room keeps shrinks a ha).passes = room a + 1 := by
  fun_induction untilStable step invariant room keeps shrinks a ha with
  | case1 a ha b h =>
      have hzero : room a = 0 := by
        have := hchange a
        rw [h] at this
        simpa using this
      rw [hzero]
      exact ⟨(congrArg Prod.fst h).symm, rfl⟩
  | case2 a ha b h hb rest ih =>
      have hpos : 0 < room a := (hchange a).mp (by rw [h])
      have hb : (step a).1 = b := congrArg Prod.fst h
      have hrest : room b + 1 = room a := by
        have := hroom a
        rw [hb] at this
        omega
      rw [Function.iterate_succ_apply, hb, ← hrest]
      exact ⟨ih.1, congrArg (· + 1) ih.2⟩

namespace Alternative

theorem sharedLength_comm (a b : Alternative) : sharedLength a b = sharedLength b a := by
  induction a generalizing b with
  | nil => rw [sharedLength_nil_left, sharedLength_nil_right]
  | cons x a ih =>
      cases b with
      | nil => rw [sharedLength_nil_left, sharedLength_nil_right]
      | cons y b =>
          rw [sharedLength_cons_cons, sharedLength_cons_cons, ih b]
          by_cases h : x = y
          · rw [h]
          · rw [if_neg fun hxy => h hxy.1, if_neg fun hyx => h hyx.1.symm]

theorem sharedLength_visible {a b : Alternative} (ha : ofSequence a = a) (hb : ofSequence b = b) :
    sharedLength (visible a) (visible b) = sharedLength a b := by
  conv => rhs; rw [← ha, ← hb]
  exact (sharedLength_orEpsilon (visible a) (visible b)).symm

theorem length_le_sharedLength {π a b : List Symbol} (h : .epsilon ∉ π) (ha : π <+: a)
    (hb : π <+: b) : π.length ≤ sharedLength a b := by
  induction π generalizing a b with
  | nil => exact Nat.zero_le _
  | cons x π ih =>
      obtain ⟨hx, hπ⟩ := List.ne_and_not_mem_of_not_mem_cons h
      obtain ⟨a, rfl, hπa⟩ := List.cons_prefix_iff.mp ha
      obtain ⟨b, rfl, hπb⟩ := List.cons_prefix_iff.mp hb
      rw [sharedLength_cons_cons, if_pos ⟨rfl, Ne.symm hx⟩]
      exact Nat.succ_le_succ (ih hπ hπa hπb)

theorem isPrefix_take_sharedLength (a b : Alternative) : a.take (sharedLength a b) <+: b := by
  induction a generalizing b with
  | nil => exact List.nil_prefix
  | cons x a ih =>
      cases b with
      | nil => exact List.nil_prefix
      | cons y b =>
          rw [sharedLength_cons_cons]
          split
          · next h =>
              rw [List.take_succ_cons, h.1]
              exact List.cons_prefix_cons.mpr ⟨rfl, ih b⟩
          · exact List.nil_prefix

theorem sharedLength_le_length (a b : Alternative) : sharedLength a b ≤ a.length := by
  induction a generalizing b with
  | nil => exact Nat.zero_le _
  | cons x a ih =>
      cases b with
      | nil => exact Nat.zero_le _
      | cons y b =>
          rw [sharedLength_cons_cons]
          split
          · exact Nat.succ_le_succ (ih b)
          · exact Nat.zero_le _

/-- The common prefixes of two alternatives are as long as `sharedLength` at most. -/
theorem le_sharedLength_iff {a b : Alternative} (ha : ofSequence a = a) (hb : ofSequence b = b)
    {m : ℕ} : m ≤ sharedLength a b ↔
      ∃ π : List Symbol, π.length = m ∧ π <+: visible a ∧ π <+: visible b := by
  rw [← sharedLength_visible ha hb]
  constructor
  · intro hm
    refine ⟨(visible a).take m, ?_, List.take_prefix _ _, ?_⟩
    · exact List.length_take_of_le (hm.trans (sharedLength_le_length _ _))
    · exact (List.take_prefix_take_left hm).trans (isPrefix_take_sharedLength _ _)
  · rintro ⟨π, rfl, hπa, hπb⟩
    exact length_le_sharedLength (fun hmem => (mem_visible.mp (hπa.subset hmem)).2 rfl) hπa hπb

end Alternative

/-! ### One pass -/

namespace Group

theorem sharedLength_eq_zero_of_members {group group' : Group}
    (h : group.leading? = none ∨ group.leading? ≠ group'.leading?) {a b : Alternative}
    (ha : a ∈ group.members) (hb : b ∈ group'.members) : Alternative.sharedLength a b = 0 := by
  refine Alternative.sharedLength_eq_zero ?_
  by_contra hboth
  obtain ⟨hsome, heq⟩ := not_or.mp hboth
  obtain ⟨s, hs⟩ := Option.ne_none_iff_exists'.mp hsome
  have hgroup := leading?_of_mem_members ha hs
  have hgroup' := leading?_of_mem_members hb (not_not.mp heq ▸ hs)
  rcases h with h | h
  · exact Option.some_ne_none s (hgroup.symm.trans h)
  · exact h (hgroup.trans hgroup'.symm)

theorem overlap_le_of_members {alternatives : List Alternative} {k : ℕ}
    (h : ∀ group ∈ ofAlternatives alternatives, Alternative.overlap group.members ≤ k) :
    Alternative.overlap alternatives ≤ k := by
  rw [Alternative.overlap_le_iff]
  -- what two alternatives share does not depend on their order, so it can be read off the groups
  refine ((perm_flatMap_members alternatives).pairwise_iff fun {a b} hab => ?_).mp ?_
  · rwa [Alternative.sharedLength_comm]
  · refine List.pairwise_flatMap.mpr ⟨fun group hgroup => ?_, ?_⟩
    · exact (Alternative.overlap_le_iff _ _).mp (h group hgroup)
    · refine (pairwise_leading? alternatives).imp fun hne a ha b hb => ?_
      rw [sharedLength_eq_zero_of_members hne ha hb]
      exact Nat.zero_le k

end Group

theorem factorGroups_map_single (left : Symbol) (symbols : SymbolTable)
    (alternatives : List Alternative) :
    factorGroups left symbols (alternatives.map .single) = ⟨symbols, alternatives, [], []⟩ := by
  induction alternatives with
  | nil => rfl
  | cons a rest ih => rw [List.map_cons, factorGroups, ih]

theorem factorProductions_of_overlap_eq_zero (symbols : SymbolTable)
    {productions : List Production}
    (h : ∀ q ∈ productions, Alternative.overlap q.alternatives = 0) :
    factorProductions symbols productions = ⟨symbols, productions, []⟩ := by
  induction productions with
  | nil => rfl
  | cons q rest ih =>
      obtain ⟨hq, hrest⟩ := List.forall_mem_cons.mp h
      have hsingle := Group.ofAlternatives_of_pairwise (Alternative.overlap_eq_zero_iff.mp hq)
      rw [factorProductions, hsingle, factorGroups_map_single, ih hrest]
      rfl

namespace Grammar

variable {g : Grammar}

theorem factor_of_overlap_eq_zero (h : g.overlap = 0) : g.factor = g ∧ g.factorPass.2 = [] := by
  have hproductions := factorProductions_of_overlap_eq_zero g.symbols fun q hq =>
    Nat.le_zero.mp ((g.overlap_le_iff 0).mp h.le q hq)
  rw [factor, factorPass, hproductions]
  exact ⟨rfl, rfl⟩

theorem splits_eq_nil_iff : g.factorPass.2 = [] ↔ g.overlap = 0 := by
  refine ⟨fun h => ?_, fun h => (factor_of_overlap_eq_zero h).2⟩
  refine Nat.le_zero.mp ((g.overlap_le_iff 0).mpr fun q hq => ?_)
  obtain ⟨f, hf⟩ := exists_factorsInto g.symbols hq
  obtain ⟨symbols, rfl⟩ := hf.eq
  refine Group.overlap_le_of_members fun group hgroup => ?_
  cases group with
  | single a => exact Nat.le_refl 0
  | shared s suffixes =>
      obtain ⟨p, hsplit⟩ := @exists_splits_of_shared_mem q.left symbols _ _ _ hgroup
      have hleft := List.mem_map_of_mem (f := Production.left) hsplit.mem
      rw [lefts_factorGroups] at hleft
      obtain ⟨split, hsplit, -⟩ := List.mem_map.mp hleft
      have hmem : split ∈ g.factorPass.2 := hf.splits hsplit
      exact absurd hmem (h ▸ List.not_mem_nil)

theorem overlap_le_overlap_factor (g : Grammar) : g.overlap ≤ g.factor.overlap + 1 := by
  rw [overlap_le_iff]
  intro q hq
  obtain ⟨f, hf⟩ := exists_factorsInto g.symbols hq
  obtain ⟨symbols, rfl⟩ := hf.eq
  refine Group.overlap_le_of_members fun group hgroup => ?_
  cases group with
  | single a => exact Nat.zero_le _
  | shared s suffixes =>
      obtain ⟨p, hsplit⟩ := @exists_splits_of_shared_mem q.left symbols _ _ _ hgroup
      have hp := (g.factor.overlap_le_iff _).mp (Nat.le_refl _) p (hf.productions hsplit.mem)
      rw [hsplit.alternatives, Alternative.overlap_le_iff, List.pairwise_map] at hp
      rw [Group.members, Alternative.overlap_le_iff, List.pairwise_map]
      refine hp.imp fun {a b} hab => ?_
      rw [Alternative.sharedLength_orEpsilon] at hab
      rw [Alternative.sharedLength_cons_cons, if_pos ⟨rfl, (Group.two_le_of_shared_mem hgroup).2⟩]
      exact Nat.succ_le_succ hab

/-- A pass makes the overlap smaller by one. -/
theorem overlap_factor (g : Grammar) : g.factor.overlap = g.overlap - 1 := by
  have hle := g.overlap_factorPass_le
  have hge := g.overlap_le_overlap_factor
  rw [factor] at hge ⊢
  omega

theorem overlap_iterate_factor (k : ℕ) (g : Grammar) :
    (Grammar.factor^[k] g).overlap = g.overlap - k := by
  induction k generalizing g with
  | zero => rfl
  | succ k ih =>
      rw [Function.iterate_succ_apply, ih, overlap_factor]
      omega

theorem factor_eq_self_iff : g.factor = g ↔ g.overlap = 0 := by
  refine ⟨fun h => ?_, fun h => (factor_of_overlap_eq_zero h).1⟩
  have := g.overlap_factor
  rw [h] at this
  omega

/-! ### Repeated passes -/

theorem factor_iterate_eq_self_iff (g : Grammar) (k : ℕ) :
    (Grammar.factor^[k] g).factor = Grammar.factor^[k] g ↔ g.overlap ≤ k := by
  rw [factor_eq_self_iff, overlap_iterate_factor]
  omega

/-- Further passes than the overlap change nothing. -/
theorem iterate_factor_of_overlap_le {k : ℕ} (h : g.overlap ≤ k) :
    Grammar.factor^[k] g = Grammar.factor^[g.overlap] g := by
  obtain ⟨more, rfl⟩ := Nat.exists_eq_add_of_le' h
  rw [Function.iterate_add_apply]
  exact Function.iterate_fixed ((g.factor_iterate_eq_self_iff _).mpr (Nat.le_refl _)) more

theorem iterate_factor_min (g : Grammar) (k : ℕ) :
    Grammar.factor^[min k g.overlap] g = Grammar.factor^[k] g := by
  rcases Nat.le_total k g.overlap with h | h
  · rw [Nat.min_eq_left h]
  · rw [Nat.min_eq_right h, iterate_factor_of_overlap_le h]

theorem factorFully_eq (g : Grammar) :
    g.factorFully.value = Grammar.factor^[g.overlap] g ∧ g.factorFully.passes = g.overlap + 1 := by
  have hchange : ∀ g : Grammar, (!g.factorPass.2.isEmpty) = true ↔ 0 < g.overlap := fun g => by
    rw [Bool.not_eq_true', ← Bool.not_eq_true, List.isEmpty_iff, splits_eq_nil_iff,
      Nat.pos_iff_ne_zero]
  obtain ⟨hvalue, hpasses⟩ := untilStable_eq_iterate
    (fun g : Grammar => (g.factorPass.1, !g.factorPass.2.isEmpty)) (fun _ => True) overlap
    (fun _ _ => trivial) (fun g _ h => g.overlap_factorPass_lt (by simpa using h))
    hchange overlap_factor g trivial
  exact ⟨hvalue.trans (iterate_factor_of_overlap_le (Nat.le_succ _)), hpasses⟩

/-! ### What the overlap measures -/

/-- Two alternatives at different positions of one production have a common prefix of this length,
where the empty word has no symbol. -/
def SharesPrefix (g : Grammar) (m : ℕ) : Prop :=
  ∃ p ∈ g.productions, ∃ (i j : ℕ) (a b : Alternative), i ≠ j ∧
    p.alternatives[i]? = some a ∧ p.alternatives[j]? = some b ∧
      ∃ π : List Symbol, π.length = m ∧ π <+: visible a ∧ π <+: visible b

theorem WellFormed.le_sharedLength_iff (hg : g.WellFormed) {p : Production}
    (hp : p ∈ g.productions) {a b : Alternative} (ha : a ∈ p.alternatives)
    (hb : b ∈ p.alternatives) {m : ℕ} : m ≤ Alternative.sharedLength a b ↔
      ∃ π : List Symbol, π.length = m ∧ π <+: visible a ∧ π <+: visible b :=
  Alternative.le_sharedLength_iff (hg.normal _ ((mem_rules_iff g _ _).mpr ⟨p, hp, rfl, ha⟩))
    (hg.normal _ ((mem_rules_iff g _ _).mpr ⟨p, hp, rfl, hb⟩))

theorem WellFormed.le_overlap (hg : g.WellFormed) {m : ℕ} (h : g.SharesPrefix m) :
    m ≤ g.overlap := by
  obtain ⟨p, hp, i, j, a, b, hij, ha, hb, hπ⟩ := h
  have hm := (hg.le_sharedLength_iff hp (List.mem_of_getElem? ha) (List.mem_of_getElem? hb)).mpr hπ
  have hpairs := (Alternative.overlap_le_iff _ _).mp
    ((g.overlap_le_iff _).mp (Nat.le_refl _) p hp)
  rw [List.pairwise_iff_getElem] at hpairs
  obtain ⟨hi, rfl⟩ := List.getElem?_eq_some_iff.mp ha
  obtain ⟨hj, rfl⟩ := List.getElem?_eq_some_iff.mp hb
  rcases Nat.lt_or_gt_of_ne hij with hlt | hgt
  · exact hm.trans (hpairs i j hi hj hlt)
  · rw [Alternative.sharedLength_comm] at hm
    exact hm.trans (hpairs j i hj hi hgt)

theorem WellFormed.sharesPrefix_overlap (hg : g.WellFormed) (hpos : 0 < g.overlap) :
    g.SharesPrefix g.overlap := by
  by_contra hnone
  have hle : g.overlap ≤ g.overlap - 1 := by
    refine (g.overlap_le_iff _).mpr fun p hp => (Alternative.overlap_le_iff _ _).mpr ?_
    rw [List.pairwise_iff_getElem]
    intro i j hi hj hij
    by_contra hlonger
    refine hnone ⟨p, hp, i, j, _, _, hij.ne, List.getElem?_eq_getElem hi,
      List.getElem?_eq_getElem hj, ?_⟩
    refine (hg.le_sharedLength_iff hp (List.getElem_mem hi) (List.getElem_mem hj)).mp ?_
    omega
  omega

theorem WellFormed.isGreatest_overlap (hg : g.WellFormed) :
    IsGreatest {m | m = 0 ∨ g.SharesPrefix m} g.overlap := by
  constructor
  · exact (Nat.eq_zero_or_pos g.overlap).imp_right hg.sharesPrefix_overlap
  · rintro m (rfl | hm)
    · exact Nat.zero_le _
    · exact hg.le_overlap hm

/-- However often a grammar has been factored since it was read, the passes that change something
are as many as the longest common prefix has symbols. Factoring fully does these passes and one that
changes nothing, and an analysis does those of them that it is allowed. -/
theorem isGreatest_passes_iterate_factor (lexing : Lexing) (text : String) (n : ℕ) :
    let g := Grammar.factor^[n] (load lexing text).1
    (∀ k, (Grammar.factor^[k] g).SuffixesEnter) ∧
      ∃ K, IsGreatest {m | m = 0 ∨ g.SharesPrefix m} K ∧
        (∀ k, (Grammar.factor^[k] g).factor = Grammar.factor^[k] g ↔ K ≤ k) ∧
        g.factorFully.value = Grammar.factor^[K] g ∧ g.factorFully.passes = K + 1 ∧
        (∀ p ∈ g.factorFully.value.productions, p.alternatives.Pairwise Alternative.Apart) ∧
        ∀ config analysis, Analysis.run g config = .ok analysis →
          analysis.factored = Grammar.factor^[min config.factorPasses K] g := by
  intro g
  have hg : g.WellFormed := (wellFormed_load lexing text).iterate_factor n
  obtain ⟨hvalue, hpasses⟩ := g.factorFully_eq
  refine ⟨fun k => (hg.iterate_factor k).suffixesEnter, g.overlap, hg.isGreatest_overlap,
    g.factor_iterate_eq_self_iff, hvalue, hpasses, fun p hp => ?_, fun config analysis hrun => ?_⟩
  · have hzero : g.factorFully.value.overlap = 0 := by
      rw [hvalue, overlap_iterate_factor, Nat.sub_self]
    exact Alternative.overlap_eq_zero_iff.mp
      (Nat.le_zero.mp ((overlap_le_iff _ 0).mp hzero.le p hp))
  · rw [(Analysis.stages_of_run hrun).factored, factorUpTo_eq_iterate, iterate_factor_min]

/-- Of five passes that an analysis is allowed it needs two: `a b` is the longest common prefix, and
one of the alternatives ends after `a`. -/
theorem isGreatest_passes_iterate_factor_two :
    ∃ analysis, Analysis.run (load .compact "S -> a b c | d | a b e | a").1 ⟨.compact, 5, false⟩ =
        .ok analysis ∧
      analysis.factored = Grammar.factor^[2] (load .compact "S -> a b c | d | a b e | a").1 := by
  have hrun : ((Analysis.run (load .compact "S -> a b c | d | a b e | a").1
      ⟨.compact, 5, false⟩).toOption.map fun analysis => analysis.table.isLL1) = some true := by
    decide +kernel
  obtain ⟨analysis, hrun, -⟩ := Analysis.exists_run_of_isLL1 hrun
  obtain ⟨-, K, -, hfixed, -, -, -, hfactored⟩ :=
    isGreatest_passes_iterate_factor .compact "S -> a b c | d | a b e | a" 0
  have hle : K ≤ 2 := (hfixed 2).mp (by decide +kernel)
  have hlt : ¬ K ≤ 1 := fun h => absurd ((hfixed 1).mpr h) (by decide +kernel)
  have hK : min 5 K = 2 := by omega
  exact ⟨analysis, hrun, hK ▸ hfactored _ _ hrun⟩

end Grammar

end Predictive
