import Predictive.Proofs.Factoring.Sets

/-!
# Left factoring can be undone

A pass loses no alternative and makes none twice. Where an alternative leads to a new non-terminal,
the members of its group can be read off the new production again (`restored`); what comes out for a
left side are its old alternatives, grouped (`WellFormed.flatMap_restored_eq_members`).

The pass itself is told by its record. The new left sides stand behind the production that they came
from (`lefts_factorProductions`), in the order of the symbols that its groups begin with, and each
of them is on the right sides once (`WellFormed.count_rightSymbols_factor`).
-/

namespace Predictive

/-! ### One production -/

section Groups

variable {left : Symbol} {symbols : SymbolTable} {groups : List Group}

theorem heads_factorGroups (left : Symbol) (symbols : SymbolTable) (groups : List Group) :
    (factorGroups left symbols groups).splits.map Split.head =
      groups.filterMap Group.sharedHead? := by
  induction groups generalizing symbols with
  | nil => rfl
  | cons group rest ih =>
      cases group with
      | single a => exact ih symbols
      | shared s suffixes => exact congrArg (s :: ·) (ih _)

/-- Where every alternative that stands for a group gives its members, the alternatives give those
of all groups. -/
theorem flatMap_factorGroups {restore : Alternative → List Alternative}
    (hsingle : ∀ a, .single a ∈ groups → restore a = [a])
    (hshared : ∀ s suffixes p, .shared s suffixes ∈ groups →
      (factorGroups left symbols groups).Splits s suffixes p →
        restore [s, p.left] = suffixes.map (s :: ·)) :
    (factorGroups left symbols groups).alternatives.flatMap restore =
      groups.flatMap Group.members := by
  induction groups generalizing symbols with
  | nil => rfl
  | cons group rest ih =>
      have hrest : ∀ a, .single a ∈ rest → restore a = [a] :=
        fun a ha => hsingle a (List.mem_cons_of_mem _ ha)
      cases group with
      | single a =>
          have ih := ih hrest fun s suffixes p hgroup hsplit =>
            hshared s suffixes p (List.mem_cons_of_mem _ hgroup)
              (hsplit.mono (List.Subset.refl _) (List.subset_cons_self _ _))
          rw [factorGroups, List.flatMap_cons, List.flatMap_cons, ih, hsingle a List.mem_cons_self]
          rfl
      | shared s suffixes =>
          have ih := ih hrest fun s' suffixes' p hgroup hsplit =>
            hshared s' suffixes' p (List.mem_cons_of_mem _ hgroup)
              (hsplit.mono (List.subset_cons_self _ _) (List.subset_cons_self _ _))
          have hown := hshared s suffixes ⟨_, suffixes.map Alternative.orEpsilon⟩ List.mem_cons_self
            ⟨List.mem_cons_self, rfl, List.mem_cons_self⟩
          rw [factorGroups, List.flatMap_cons, List.flatMap_cons, ih, hown]
          rfl

theorem count_factorGroups (left : Symbol) (symbols : SymbolTable) {s : Symbol}
    (hnew : ∀ group ∈ groups, ∀ a ∈ group.members, s ∉ a)
    (hne : ∀ t suffixes, .shared t suffixes ∈ groups → suffixes ≠ []) :
    (factorGroups left symbols groups).alternatives.flatten.count s =
      ((factorGroups left symbols groups).splits.map Split.suffix).count s := by
  induction groups generalizing symbols with
  | nil => rfl
  | cons group rest ih =>
      have ih := fun symbols => ih symbols
        (fun group hgroup => hnew group (List.mem_cons_of_mem _ hgroup))
        (fun t suffixes hgroup => hne t suffixes (List.mem_cons_of_mem _ hgroup))
      cases group with
      | single a =>
          have hzero : a.count s = 0 :=
            List.count_eq_zero.mpr (hnew _ List.mem_cons_self a List.mem_cons_self)
          rw [factorGroups, List.flatten_cons, List.count_append, ih, hzero, zero_add]
      | shared t suffixes =>
          obtain ⟨suffix, hsuffix⟩ :=
            List.exists_mem_of_ne_nil _ (hne t suffixes List.mem_cons_self)
          have hmember := hnew _ List.mem_cons_self _ (List.mem_map_of_mem hsuffix)
          have hts : t ≠ s := fun heq => hmember (heq ▸ List.mem_cons_self)
          rw [factorGroups, List.flatten_cons, List.count_append, List.count_cons_of_ne hts, ih,
            List.map_cons, ← List.count_append, List.singleton_append]

theorem notMem_productions_factorGroups {s : Symbol} (hs : s ≠ .epsilon)
    (hnew : ∀ group ∈ groups, ∀ a ∈ group.members, s ∉ a) {p : Production}
    (hp : p ∈ (factorGroups left symbols groups).productions) : s ∉ p.alternatives.flatten := by
  obtain ⟨t, suffixes, hgroup, hsplit⟩ := exists_splits_of_mem_productions hp
  intro hmem
  obtain ⟨a, ha, hsa⟩ := List.mem_flatten.mp hmem
  rw [hsplit.alternatives] at ha
  obtain ⟨suffix, hsuffix, rfl⟩ := List.mem_map.mp ha
  refine hnew _ hgroup _ (List.mem_map_of_mem hsuffix) (List.mem_cons_of_mem t ?_)
  exact (Alternative.mem_of_mem_orEpsilon hsa).resolve_left hs

end Groups

/-! ### All productions -/

section Productions

variable {symbols : SymbolTable} {productions : List Production}

def splitsOf (left : Symbol) (splits : List Split) : List Split :=
  splits.filter fun split => split.left = left

theorem left_eq_of_mem_splits {left : Symbol} {groups : List Group} {split : Split}
    (h : split ∈ (factorGroups left symbols groups).splits) : split.left = left :=
  (exists_splits_of_mem_splits h).1

theorem left_mem_of_mem_splits {split : Split}
    (h : split ∈ (factorProductions symbols productions).splits) :
    split.left ∈ productions.map Production.left := by
  obtain ⟨q, hq, f, hf, hsplit⟩ := exists_factorsInto_of_mem_splits h
  obtain ⟨symbols, rfl⟩ := hf.eq
  exact left_eq_of_mem_splits hsplit ▸ List.mem_map_of_mem hq

theorem splitsOf_cons (symbols : SymbolTable) {q : Production}
    (hq : q.left ∉ productions.map Production.left) :
    let f := factorGroups q.left symbols (Group.ofAlternatives q.alternatives)
    let r := factorProductions symbols (q :: productions)
    splitsOf q.left r.splits = f.splits ∧ ∀ left ∈ productions.map Production.left,
      splitsOf left r.splits = splitsOf left (factorProductions f.symbols productions).splits := by
  intro f r
  constructor
  · have hown : splitsOf q.left f.splits = f.splits :=
      List.filter_eq_self.mpr fun split h => by simpa using left_eq_of_mem_splits h
    have hothers : splitsOf q.left (factorProductions f.symbols productions).splits = [] :=
      List.filter_eq_nil_iff.mpr fun split h heq =>
        hq (of_decide_eq_true heq ▸ left_mem_of_mem_splits h)
    refine (List.filter_append ..).trans ?_
    rw [← splitsOf, ← splitsOf, hown, hothers, List.append_nil]
  · intro left hleft
    have hown : splitsOf left f.splits = [] :=
      List.filter_eq_nil_iff.mpr fun split h heq =>
        hq (left_eq_of_mem_splits h ▸ of_decide_eq_true heq ▸ hleft)
    refine (List.filter_append ..).trans ?_
    rw [← splitsOf, ← splitsOf, hown, List.nil_append]

/-- The productions keep their order, and behind each come those of what was split off from it. -/
theorem lefts_factorProductions (h : (productions.map Production.left).Nodup) :
    (factorProductions symbols productions).productions.map Production.left =
      productions.flatMap fun q => q.left ::
        (splitsOf q.left (factorProductions symbols productions).splits).map Split.suffix := by
  induction productions generalizing symbols with
  | nil => rfl
  | cons q rest ih =>
      obtain ⟨hq, hrest⟩ := List.nodup_cons.mp h
      obtain ⟨hown, hothers⟩ := splitsOf_cons symbols hq
      rw [List.flatMap_cons, hown, List.flatMap_congr fun p hp => by
        rw [hothers p.left (List.mem_map_of_mem hp)], ← ih hrest, factorProductions]
      simp only [List.map_cons, List.map_append, List.cons_append, lefts_factorGroups]

theorem heads_factorProductions (h : (productions.map Production.left).Nodup) {q : Production}
    (hq : q ∈ productions) :
    (splitsOf q.left (factorProductions symbols productions).splits).map Split.head =
      sharedHeads q.alternatives := by
  induction productions generalizing symbols with
  | nil => cases hq
  | cons p rest ih =>
      obtain ⟨hp, hrest⟩ := List.nodup_cons.mp h
      obtain ⟨hown, hothers⟩ := splitsOf_cons symbols hp
      rcases List.mem_cons.mp hq with rfl | hq
      · rw [hown, heads_factorGroups, Group.filterMap_sharedHead?]
      · rw [hothers q.left (List.mem_map_of_mem hq), ih hrest hq]

theorem count_factorProductions {s : Symbol} (hs : s ≠ .epsilon)
    (hnew : ∀ q ∈ productions, ∀ a ∈ q.alternatives, s ∉ a) :
    ((factorProductions symbols productions).productions.flatMap
        fun p => p.alternatives.flatten).count s =
      ((factorProductions symbols productions).splits.map Split.suffix).count s := by
  induction productions generalizing symbols with
  | nil => rfl
  | cons q rest ih =>
      have hgroups : ∀ group ∈ Group.ofAlternatives q.alternatives, ∀ a ∈ group.members, s ∉ a :=
        fun group hgroup a ha =>
          hnew q List.mem_cons_self a ((Group.sublist_of_mem hgroup).subset ha)
      have hcount := count_factorGroups q.left symbols hgroups fun t suffixes hgroup =>
        List.ne_nil_of_length_pos
          (Nat.lt_of_lt_of_le (by decide) (Group.two_le_of_shared_mem hgroup).1)
      have hzero : ((factorGroups q.left symbols
          (Group.ofAlternatives q.alternatives)).productions.flatMap
            fun p => p.alternatives.flatten).count s = 0 :=
        List.count_eq_zero.mpr fun hmem => by
          obtain ⟨p, hp, hmem⟩ := List.mem_flatMap.mp hmem
          exact notMem_productions_factorGroups hs hgroups hp hmem
      rw [factorProductions]
      simp only [List.cons_append, List.flatMap_cons, List.flatMap_append, List.count_append,
        List.map_append, hcount, hzero, zero_add]
      rw [ih fun q' hq' => hnew q' (List.mem_cons_of_mem _ hq')]

end Productions

namespace Grammar

def alternativesFor (g : Grammar) (left : Symbol) : List Alternative :=
  (g.production? left).elim [] Production.alternatives

/-- What was an alternative before a pass: in the place of one that leads to a new non-terminal, the
members of the group. -/
def restored (g f : Grammar) : Alternative → List Alternative
  | [c, new] =>
    if new ∈ f.nonTerminals ∧ new ∉ g.nonTerminals then
      (f.alternativesFor new).map fun a => c :: visible a
    else [[c, new]]
  | a => [a]

variable {g : Grammar}

theorem WellFormed.alternativesFor_left (hg : g.WellFormed) {p : Production}
    (hp : p ∈ g.productions) : g.alternativesFor p.left = p.alternatives := by
  rw [alternativesFor, hg.production?_left hp, Option.elim_some]

namespace WellFormed

variable (hg : g.WellFormed)
include hg

theorem restored_of_rule {left : Symbol} {a : Alternative} (hrule : (left, a) ∈ g.rules) :
    g.restored g.factor a = [a] := by
  unfold restored
  split
  · next c new =>
      refine if_neg fun ⟨hmem, hnew⟩ => hnew ?_
      have hkind := (mem_nonTerminals.mp hmem).2
      refine mem_nonTerminals.mpr ⟨(hg.mem_named _ hrule new (by simp)).resolve_left ?_, hkind⟩
      rintro rfl
      cases hkind
  · rfl

theorem epsilon_notMem_of_isSplit {left head : Symbol} {suffixes : List (List Symbol)}
    {p : Production} (hsplit : g.IsSplit left head suffixes p) {suffix : List Symbol}
    (hsuffix : suffix ∈ suffixes) : .epsilon ∉ suffix :=
  Alternative.epsilon_notMem_of_ofSequence_eq hsplit.head_ne
    (hg.normal _ (hsplit.rule_mem suffix hsuffix))

theorem restored_of_isSplit {left head : Symbol} {suffixes : List (List Symbol)} {p : Production}
    (hsplit : g.IsSplit left head suffixes p) :
    g.restored g.factor [head, p.left] = suffixes.map (head :: ·) := by
  have hnew : p.left ∉ g.nonTerminals :=
    fun hmem => hg.left_notMem_of_isSplit hsplit (mem_nonTerminals.mp hmem).1
  rw [restored, if_pos ⟨hg.left_mem_factor hsplit.mem, hnew⟩,
    hg.factor.alternativesFor_left hsplit.mem, hsplit.alternatives, List.map_map]
  refine List.map_congr_left fun suffix hsuffix => ?_
  rw [Function.comp_apply, visible_orEpsilon,
    visible_eq_self (hg.epsilon_notMem_of_isSplit hsplit hsuffix)]

/-- Undoing a pass gives the members of the groups, one group after another. -/
theorem flatMap_restored_eq_members {q : Production} (hq : q ∈ g.productions) :
    (g.factor.alternativesFor q.left).flatMap (g.restored g.factor) =
      (Group.ofAlternatives q.alternatives).flatMap Group.members := by
  obtain ⟨f, hf⟩ := exists_factorsInto g.symbols hq
  obtain ⟨symbols, rfl⟩ := hf.eq
  rw [hg.factor.alternativesFor_left hf.left_mem]
  refine flatMap_factorGroups (fun a ha => ?_) fun s suffixes p hgroup hsplit => ?_
  · exact hg.restored_of_rule ((mem_rules_iff _ _ _).mpr ⟨q, hq, rfl, Group.mem_of_single_mem ha⟩)
  · exact hg.restored_of_isSplit (isSplit_of_splits hq hf hgroup hsplit)

theorem apart_factor {q : Production} (hq : q ∈ g.productions) :
    (g.factor.alternativesFor q.left).Pairwise Alternative.Apart := by
  obtain ⟨f, hf⟩ := exists_factorsInto g.symbols hq
  obtain ⟨symbols, rfl⟩ := hf.eq
  rw [hg.factor.alternativesFor_left hf.left_mem, ← Alternative.overlap_eq_zero_iff]
  exact Nat.le_zero.mp (overlap_alternatives_factorGroups _ _ (Group.pairwise_leading? _)
    fun _ _ hs => (Group.two_le_of_shared_mem hs).2)

/-- A new production has the rests of the alternatives that begin with the symbol of its group. -/
theorem alternativesFor_suffix {split : Split} (hsplit : split ∈ g.factorPass.2) :
    g.factor.alternativesFor split.suffix =
      (Group.beginningWith split.head (g.alternativesFor split.left)).map
        fun a => Alternative.orEpsilon a.tail := by
  obtain ⟨q, hq, f, hf, hmem⟩ := exists_factorsInto_of_mem_splits hsplit
  obtain ⟨symbols, rfl⟩ := hf.eq
  obtain ⟨hleft, suffixes, p, hgroup, hsplits, hp⟩ := exists_splits_of_mem_splits hmem
  rw [hleft, hg.alternativesFor_left hq, ← hp,
    hg.factor.alternativesFor_left (hf.productions hsplits.mem), hsplits.alternatives,
    Group.suffixes_eq_of_shared_mem hgroup, List.map_map]
  rfl

/-- A new non-terminal is on the right sides once. -/
theorem count_rightSymbols_factor {split : Split} (hsplit : split ∈ g.factorPass.2) :
    g.factor.rightSymbols.count split.suffix = 1 := by
  obtain ⟨suffixes, p, his, hp, -⟩ := hg.exists_isSplit hsplit
  have hnotMem := hg.left_notMem_of_isSplit his
  have hne : p.left ≠ .epsilon := by
    obtain ⟨name, hname⟩ := his.exists_left_eq
    rw [hname]
    exact Symbol.noConfusion
  rw [← hp]
  calc g.factor.rightSymbols.count p.left
      = (g.factorPass.2.map Split.suffix).count p.left := by
        refine count_factorProductions hne fun q hq a ha hmem => hnotMem ?_
        have hrule := (mem_rules_iff g _ _).mpr ⟨q, hq, rfl, ha⟩
        exact (hg.mem_named _ hrule _ hmem).resolve_left hne
    _ = 1 := List.count_eq_one_of_mem hg.suffixes_nodup.1 his.left_mem

end WellFormed

/-- How a pass regroups the alternatives of a grammar, told by the record of the pass. -/
structure Regroups (g f : Grammar) (splits : List Split) : Prop where
  lefts_eq : f.productions.map Production.left =
    g.productions.flatMap fun q => q.left :: (splitsOf q.left splits).map Split.suffix
  lefts_nodup : (f.productions.map Production.left).Nodup
  heads_eq : ∀ q ∈ g.productions,
    (splitsOf q.left splits).map Split.head = sharedHeads q.alternatives
  new_iff : ∀ A, A ∈ f.nonTerminals ∧ A ∉ g.nonTerminals ↔ ∃ split ∈ splits, split.suffix = A
  occurs_once : ∀ split ∈ splits, f.rightSymbols.count split.suffix = 1 ∧
    split.left ∈ g.productions.map Production.left ∧
      [split.head, split.suffix] ∈ f.alternativesFor split.left
  suffixes_eq : ∀ split ∈ splits, f.alternativesFor split.suffix =
    (Group.beginningWith split.head (g.alternativesFor split.left)).map
      fun a => Alternative.orEpsilon a.tail
  apart : ∀ q ∈ g.productions, (f.alternativesFor q.left).Pairwise Alternative.Apart
  restored_eq : ∀ q ∈ g.productions, (f.alternativesFor q.left).flatMap (g.restored f) =
    groupedStably Alternative.leading? q.alternatives
  restored_perm : ∀ q ∈ g.productions,
    ((f.alternativesFor q.left).flatMap (g.restored f)).Perm q.alternatives

theorem WellFormed.regroups (hg : g.WellFormed) : g.Regroups g.factor g.factorPass.2 where
  lefts_eq := lefts_factorProductions hg.lefts_nodup
  lefts_nodup := hg.factor.lefts_nodup
  heads_eq _ hq := heads_factorProductions hg.lefts_nodup hq
  new_iff A := by
    refine ⟨fun ⟨hmem, hnew⟩ => exists_split_of_notMem hmem hnew, ?_⟩
    rintro ⟨split, hsplit, rfl⟩
    obtain ⟨suffixes, p, his, hp, -⟩ := hg.exists_isSplit hsplit
    rw [← hp]
    exact ⟨hg.left_mem_factor his.mem,
      fun hmem => hg.left_notMem_of_isSplit his (mem_nonTerminals.mp hmem).1⟩
  occurs_once split hsplit := by
    obtain ⟨suffixes, p, his, hp, -⟩ := hg.exists_isSplit hsplit
    refine ⟨hg.count_rightSymbols_factor hsplit, left_mem_of_mem_splits hsplit, ?_⟩
    obtain ⟨p', hp', hleft, hmem⟩ := (mem_rules_iff _ _ _).mp his.head_mem
    rwa [← hp, ← hleft, hg.factor.alternativesFor_left hp']
  suffixes_eq _ hsplit := hg.alternativesFor_suffix hsplit
  apart _ hq := hg.apart_factor hq
  restored_eq q hq := by
    rw [hg.flatMap_restored_eq_members hq, Group.flatMap_members_ofAlternatives, groupedStably_eq]
  restored_perm q hq := by
    rw [hg.flatMap_restored_eq_members hq]
    exact Group.perm_flatMap_members q.alternatives

/-- However often a grammar has been factored since it was read, one further pass can be carried
out, keeps the order of the productions, and can be undone. -/
theorem regroups_iterate_factor (lexing : Lexing) (text : String) (n : ℕ) :
    let g := Grammar.factor^[n] (load lexing text).1
    g.SuffixesEnter ∧ g.Regroups g.factor g.factorPass.2 := by
  intro g
  have hg : g.WellFormed := (wellFormed_load lexing text).iterate_factor n
  exact ⟨hg.suffixesEnter, hg.regroups⟩

/-- An alternative that stands there twice is restored twice, behind the first with its symbol. -/
example :
    let g := (load .compact "S -> a S | ε | b | a | a S").1
    (g.factor.alternativesFor (.nonTerminal "S")).flatMap (g.restored g.factor) =
      [[.terminal "a", .nonTerminal "S"], [.terminal "a"], [.terminal "a", .nonTerminal "S"],
        [.epsilon], [.terminal "b"]] := by
  decide +kernel

end Grammar

end Predictive
