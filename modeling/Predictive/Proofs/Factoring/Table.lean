import Predictive.Proofs.Factoring.Restore
import Predictive.Proofs.Table

/-!
# Left factoring keeps a grammar LL(1)

A grammar is LL(1) when no symbol of the input predicts two alternatives of one production
(`Saturated.isLL1_iff_pairwise`). An LL(1) grammar can still have groups to split off: the symbol
that they begin with then stands for the empty word only.

For an old left side, what predicts an alternative after a pass predicted one of the members that it
is restored to (`FactorsSets.exists_predicts_restored`), and different alternatives are restored to
different members. For a new left side, the shared symbol can vanish, so what predicts a suffix
predicted the whole member before (`FactorsSets.predicts_member`).
-/

namespace Predictive

def PredictedApart (first follow : SymbolSets) (left : Symbol) (a b : Alternative) : Prop :=
  ∀ t, ¬ (Predicts first follow left a t ∧ Predicts first follow left b t)

theorem PredictedApart.symm {first follow : SymbolSets} {left : Symbol} {a b : Alternative}
    (h : PredictedApart first follow left a b) : PredictedApart first follow left b a :=
  fun t ht => h t ht.symm

namespace Grammar

variable {g : Grammar} {first follow first' follow' : SymbolSets}

theorem Saturated.isLL1_iff_pairwise (h : g.Saturated first follow) :
    (g.parsingTable first follow).isLL1 = true ↔
      ∀ p ∈ g.productions, p.alternatives.Pairwise (PredictedApart first follow p.left) := by
  rw [h.isLL1_iff]
  refine forall₂_congr fun p _ => ?_
  rw [List.pairwise_iff_getElem]
  constructor
  · intro hapart i j hi hj hij
    exact hapart i j _ _ hij.ne (List.getElem?_eq_getElem hi) (List.getElem?_eq_getElem hj)
  · intro hapart i j a b hij ha hb
    obtain ⟨hi, rfl⟩ := List.getElem?_eq_some_iff.mp ha
    obtain ⟨hj, rfl⟩ := List.getElem?_eq_some_iff.mp hb
    rcases Nat.lt_or_gt_of_ne hij with hlt | hgt
    · exact hapart i j hi hj hlt
    · exact (hapart j i hj hi hgt).symm

/-- Members that are predicted apart begin with a symbol that can vanish. -/
theorem Saturated.epsilon_mem_firstOf_head (h : g.Saturated first follow)
    (hnonempty : ∀ A ∈ g.nonTerminals, ∃ s, first.contains A s = true) {left head : Symbol}
    {suffixes : List (List Symbol)} {p : Production} (his : g.IsSplit left head suffixes p)
    (hapart : (suffixes.map (head :: ·)).Pairwise (PredictedApart first follow left)) :
    .epsilon ∈ firstOf first [head] := by
  have hexists : ∃ s, s ∈ firstOf first [head] := by
    have hnamed := (h.wellFormed.mem_named_of_isSplit his).1
    cases hhead : head with
    | epsilon => exact absurd hhead his.head_ne
    | endMarker => exact ⟨_, List.mem_singleton_self _⟩
    | terminal name => exact ⟨_, List.mem_singleton_self _⟩
    | nonTerminal name =>
        rw [hhead] at hnamed
        obtain ⟨s, hs⟩ := hnonempty _ (mem_nonTerminals.mpr ⟨hnamed, rfl⟩)
        exact ⟨s, mem_firstOf_singleton.mpr hs⟩
  obtain ⟨s, hmem⟩ := hexists
  by_contra hvanishes
  -- a symbol that the head can begin with would predict all members of the group
  have hne : s ≠ .epsilon := fun heq => hvanishes (heq ▸ hmem)
  have hpredicts : ∀ suffix ∈ suffixes, Predicts first follow left (head :: suffix) s :=
    fun suffix hsuffix => (h.mem_lookaheads_iff (his.rule_mem suffix hsuffix)).mp
      (mem_lookaheads.mpr (.inl ⟨mem_firstOf_append (α := [head]) |>.mpr (.inl ⟨hmem, hne⟩), hne⟩))
  match suffixes, his.two_le, hapart, hpredicts with
  | a :: b :: _, _, hapart, hpredicts =>
      exact (List.pairwise_cons.mp hapart).1 (head :: b) (by simp) s
        ⟨hpredicts a (by simp), hpredicts b (by simp)⟩

/-! ### What predicts an alternative after a pass -/

namespace FactorsSets

variable (hg : g.WellFormed) (h : g.FactorsSets first follow first' follow')
include h

theorem mem_firstOf_old {α : List Symbol} (hα : ∀ s ∈ α, s = .epsilon ∨ s ∈ g.symbols.named)
    {s : Symbol} : s ∈ firstOf first' α ↔ s ∈ firstOf first α :=
  mem_firstOf_congr_of_named (fun A hA t => by rw [h.first_old A hA]) hα

include hg

theorem predicts_old {left t : Symbol} {a : Alternative} (hrule : (left, a) ∈ g.rules) :
    Predicts first' follow' left a t ↔ Predicts first follow left a t := by
  rw [Predicts, Predicts, h.mem_firstOf_old (hg.mem_named _ hrule),
    h.mem_firstOf_old (hg.mem_named _ hrule), h.follow_old _ (hg.left_mem_of_rule hrule)]

theorem mem_firstOf_split {split : Split} (hsplit : split ∈ g.factorPass.2) {t : Symbol} :
    t ∈ firstOf first' [split.head, split.suffix] ↔ ∃ suffix,
      (split.left, split.head :: suffix) ∈ g.rules ∧ t ∈ firstOf first (split.head :: suffix) := by
  obtain ⟨suffixes, p, his, hp, hrules⟩ := hg.exists_isSplit hsplit
  obtain ⟨name, hname⟩ := his.exists_left_eq
  have hhead : ∀ s, s ∈ firstOf first' [split.head] ↔ s ∈ firstOf first [split.head] := fun s =>
    h.mem_firstOf_old fun x hx =>
      .inr (List.mem_singleton.mp hx ▸ (hg.mem_named_of_isSplit his).1)
  have hnew : t ∈ firstOf first' [split.suffix] ↔ ∃ suffix,
      (split.left, split.head :: suffix) ∈ g.rules ∧ t ∈ firstOf first suffix := by
    rw [← h.first_new split hsplit, ← hp, hname, mem_firstOf_singleton]
  have hmember : ∀ suffix, t ∈ firstOf first (split.head :: suffix) ↔
      t ∈ firstOf first [split.head] ∧ t ≠ .epsilon ∨
        .epsilon ∈ firstOf first [split.head] ∧ t ∈ firstOf first suffix := fun suffix =>
    mem_firstOf_append (α := [split.head])
  rw [← List.singleton_append, mem_firstOf_append, hhead, hhead, hnew]
  constructor
  · rintro (hown | ⟨hvanishes, suffix, hrule, ht⟩)
    · obtain ⟨suffix, hsuffix⟩ := List.exists_mem_of_ne_nil _ his.suffixes_ne_nil
      exact ⟨suffix, (hrules suffix).mpr hsuffix, (hmember suffix).mpr (.inl hown)⟩
    · exact ⟨suffix, hrule, (hmember suffix).mpr (.inr ⟨hvanishes, ht⟩)⟩
  · rintro ⟨suffix, hrule, ht⟩
    rcases (hmember suffix).mp ht with hown | ⟨hvanishes, ht⟩
    · exact .inl hown
    · exact .inr ⟨hvanishes, suffix, hrule, ht⟩

/-- What leads to a new non-terminal is predicted only where a member of its group was. -/
theorem exists_predicts_member {split : Split} (hsplit : split ∈ g.factorPass.2) {t : Symbol}
    (ht : Predicts first' follow' split.left [split.head, split.suffix] t) :
    ∃ suffix, (split.left, split.head :: suffix) ∈ g.rules ∧
      Predicts first follow split.left (split.head :: suffix) t := by
  obtain ⟨hinput, ht | ⟨hvanishes, ht⟩⟩ := ht
  · obtain ⟨suffix, hrule, ht⟩ := (h.mem_firstOf_split hg hsplit).mp ht
    exact ⟨suffix, hrule, hinput, .inl ht⟩
  · obtain ⟨suffix, hrule, hvanishes⟩ := (h.mem_firstOf_split hg hsplit).mp hvanishes
    rw [h.follow_old _ (hg.left_mem_of_rule hrule)] at ht
    exact ⟨suffix, hrule, hinput, .inr ⟨hvanishes, ht⟩⟩

/-- An alternative of an old left side is predicted only where something was that it is restored
to. -/
theorem exists_predicts_restored {left t : Symbol} {a : Alternative} (hleft : left ∈ g.nonTerminals)
    (hrule : (left, a) ∈ g.factor.rules) (ht : Predicts first' follow' left a t) :
    ∃ b ∈ g.restored g.factor a, Predicts first follow left b t := by
  rcases mem_rules_factor hrule with hold | ⟨head, suffixes, p, his, rfl⟩ |
    ⟨old, head, suffixes, p, his, rfl, -⟩
  · refine ⟨a, ?_, (h.predicts_old hg hold).mp ht⟩
    rw [hg.restored_of_rule hold]
    exact List.mem_singleton_self a
  · obtain ⟨split, hsplit, rfl, rfl, hsuffix⟩ := hg.exists_split his
    rw [← hsuffix] at ht ⊢
    obtain ⟨suffix, hmember, ht⟩ := h.exists_predicts_member hg hsplit ht
    obtain ⟨suffixes', p', his', hp', hrules⟩ := hg.exists_isSplit hsplit
    refine ⟨split.head :: suffix, ?_, ht⟩
    rw [← hp', hg.restored_of_isSplit his']
    exact List.mem_map_of_mem ((hrules suffix).mp hmember)
  · exact absurd (mem_nonTerminals.mp hleft).1 (hg.left_notMem_of_isSplit his)

/-- Where the shared symbol can vanish, a suffix is predicted only where the whole member was. -/
theorem predicts_member {left head : Symbol} {suffixes : List (List Symbol)} {p : Production}
    (his : g.IsSplit left head suffixes p) (hvanishes : .epsilon ∈ firstOf first [head])
    {suffix : List Symbol} (hsuffix : suffix ∈ suffixes) {t : Symbol}
    (ht : Predicts first' follow' p.left (Alternative.orEpsilon suffix) t) :
    Predicts first follow left (head :: suffix) t := by
  obtain ⟨split, hsplit, rfl, rfl, hp⟩ := hg.exists_split his
  have hbehind : ∀ s ∈ firstOf first suffix, s ∈ firstOf first (split.head :: suffix) :=
    fun s hs => mem_firstOf_append (α := [split.head]) |>.mpr (.inr ⟨hvanishes, hs⟩)
  rw [Predicts, firstOf_orEpsilon, h.mem_firstOf_old ((hg.mem_named_of_isSplit his).2 _ hsuffix),
    h.mem_firstOf_old ((hg.mem_named_of_isSplit his).2 _ hsuffix), ← hp,
    h.follow_new split hsplit] at ht
  exact ⟨ht.1, ht.2.imp (hbehind t) fun ht => ⟨hbehind _ ht.1, ht.2⟩⟩

/-! ### The tables -/

theorem pairwise_old {p q : Production} (hp : p ∈ g.factor.productions) (hq : q ∈ g.productions)
    (hleft : p.left = q.left)
    (hapart : q.alternatives.Pairwise (PredictedApart first follow q.left)) :
    p.alternatives.Pairwise (PredictedApart first' follow' p.left) := by
  have hperm := hg.regroups.restored_perm q hq
  rw [← hleft, hg.factor.alternativesFor_left hp] at hperm
  rw [← hleft] at hapart
  have hrestored := (hperm.pairwise_iff PredictedApart.symm).mpr hapart
  have hrule : ∀ a ∈ p.alternatives, (p.left, a) ∈ g.factor.rules := fun a ha =>
    (mem_rules_iff _ _ _).mpr ⟨p, hp, rfl, ha⟩
  have hold : p.left ∈ g.nonTerminals := hleft ▸ hg.left_mem q hq
  refine (List.pairwise_flatMap.mp hrestored).2.imp_of_mem fun {a b} ha hb hab t ht => ?_
  obtain ⟨x, hx, htx⟩ := h.exists_predicts_restored hg hold (hrule a ha) ht.1
  obtain ⟨y, hy, hty⟩ := h.exists_predicts_restored hg hold (hrule b hb) ht.2
  exact hab x hx y hy t ⟨htx, hty⟩

theorem pairwise_new (hs : g.Saturated first follow)
    (hnonempty : ∀ A ∈ g.nonTerminals, ∃ s, first.contains A s = true) {left head : Symbol}
    {suffixes : List (List Symbol)} {p : Production} (his : g.IsSplit left head suffixes p)
    (hapart : (suffixes.map (head :: ·)).Pairwise (PredictedApart first follow left)) :
    p.alternatives.Pairwise (PredictedApart first' follow' p.left) := by
  have hvanishes := hs.epsilon_mem_firstOf_head hnonempty his hapart
  rw [his.alternatives, List.pairwise_map]
  rw [List.pairwise_map] at hapart
  refine hapart.imp_of_mem fun {a b} ha hb hab t ht => hab t ⟨?_, ?_⟩
  · exact h.predicts_member hg his hvanishes ha ht.1
  · exact h.predicts_member hg his hvanishes hb ht.2

theorem isLL1_factor (hs : g.Saturated first follow) (hs' : g.factor.Saturated first' follow')
    (hnonempty : ∀ A ∈ g.nonTerminals, ∃ s, first.contains A s = true)
    (hll1 : (g.parsingTable first follow).isLL1 = true) :
    (g.factor.parsingTable first' follow').isLL1 = true := by
  rw [hs.isLL1_iff_pairwise] at hll1
  refine hs'.isLL1_iff_pairwise.mpr fun p hp => ?_
  obtain ⟨q, hq, f, hf, hpf⟩ := exists_factorsInto_of_mem hp
  obtain ⟨symbols, rfl⟩ := hf.eq
  rcases hpf with rfl | hpf
  · exact h.pairwise_old hg hp hq rfl (hll1 q hq)
  · obtain ⟨s, suffixes, hgroup, hsplit⟩ := exists_splits_of_mem_productions hpf
    exact h.pairwise_new hg hs hnonempty (isSplit_of_splits hq hf hgroup hsplit)
      ((hll1 q hq).sublist (Group.sublist_of_mem hgroup))

end FactorsSets

/-- However often a grammar has been factored since it was read, if it is valid, each of its
non-terminals can begin with something and its table is LL(1), then so is its table after one
further pass. -/
theorem isLL1_iterate_factor (lexing : Lexing) (text : String) (n : ℕ)
    (hv : (Grammar.factor^[n] (load lexing text).1).validate = .ok ()) :
    let g := Grammar.factor^[n] (load lexing text).1
    ∃ first follow first' follow', g.firstSets = .ok first ∧
      g.followSets first.value = .ok follow ∧ g.factor.firstSets = .ok first' ∧
      g.factor.followSets first'.value = .ok follow' ∧
      ((∀ A ∈ g.nonTerminals, ∃ s, first.value.contains A s = true) →
        (g.parsingTable first.value follow.value).isLL1 = true →
          (g.factor.parsingTable first'.value follow'.value).isLL1 = true) := by
  intro g
  have hg : g.WellFormed := (wellFormed_load lexing text).iterate_factor n
  obtain ⟨first, follow, hfirst, hfollow, h⟩ := hg.exists_exact hv
  obtain ⟨first', follow', hfirst', hfollow', h'⟩ := hg.factor.exists_exact (validate_factor hv)
  exact ⟨first, follow, first', follow', hfirst, hfollow, hfirst', hfollow',
    (h.factorsSets hg h').isLL1_factor hg (hg.saturated hfirst hfollow)
      (hg.factor.saturated hfirst' hfollow')⟩

/-- One pass has left the suffixes `B a` and `B`, of which `B` is split off although the grammar is
LL(1), because it stands for the empty word only. -/
theorem isLL1_iterate_factor_vanishing :
    (Grammar.factor^[1] (load .compact "S -> A B a | A B | b\nA -> ε\nB -> ε").1).validate =
      .ok () ∧
    let g := Grammar.factor^[1] (load .compact "S -> A B a | A B | b\nA -> ε\nB -> ε").1
    ∃ first follow first' follow', g.firstSets = .ok first ∧
      g.followSets first.value = .ok follow ∧ g.factor.firstSets = .ok first' ∧
      g.factor.followSets first'.value = .ok follow' ∧
      (∀ A ∈ g.nonTerminals, ∃ s, first.value.contains A s = true) ∧
      (g.parsingTable first.value follow.value).isLL1 = true ∧
      (g.factor.parsingTable first'.value follow'.value).isLL1 = true := by
  have hv : (Grammar.factor^[1]
      (load .compact "S -> A B a | A B | b\nA -> ε\nB -> ε").1).validate = .ok () := by
    decide +kernel
  have hbit : (Grammar.factor^[1]
      (load .compact "S -> A B a | A B | b\nA -> ε\nB -> ε").1).setsSatisfy (fun g first follow =>
        (g.nonTerminals.all fun A => !(first.members A).isEmpty) &&
          (g.parsingTable first follow).isLL1) = true := by decide +kernel
  obtain ⟨first, follow, first', follow', hfirst, hfollow, hfirst', hfollow', hll1⟩ :=
    isLL1_iterate_factor .compact _ 1 hv
  have hboth := satisfies_of_setsSatisfy hfirst hfollow hbit
  rw [Bool.and_eq_true] at hboth
  have hnonempty : ∀ A ∈ (Grammar.factor^[1] (load .compact
      "S -> A B a | A B | b\nA -> ε\nB -> ε").1).nonTerminals,
        ∃ s, first.value.contains A s = true := by
    intro A hA
    have hne := List.all_eq_true.mp hboth.1 A hA
    obtain ⟨s, hs⟩ := List.exists_mem_of_ne_nil (first.value.members A) (by simpa using hne)
    exact ⟨s, (first.value.contains_iff A s).mpr hs⟩
  exact ⟨hv, first, follow, first', follow', hfirst, hfollow, hfirst', hfollow', hnonempty, hboth.2,
    hll1 hnonempty hboth.2⟩

end Grammar

end Predictive
