import Predictive.Grammar.Factoring
import Predictive.Proofs.Grammar.WellFormed

/-!
# The rules after a factoring pass

A pass splits groups off. `IsSplit g left head suffixes p` says that the alternatives `head σ` of
`left`, for the `σ` in `suffixes`, have become one alternative that ends in the left side of `p`,
and `p` the production of the suffixes. Every rule of the factored grammar is an old one or belongs
to a split (`mem_rules_factor`), and every old rule is still there or belongs to a split
(`mem_rules_of_factor`).

New left sides are new symbols of the table, in the order of the splits, and the table takes them
in one after another (`WellFormed.suffixesEnter`). That keeps the grammar well-formed
(`WellFormed.factor`); so no two splits share their left side, and none is an old symbol.
-/

namespace Predictive

namespace Group

theorem exists_mem_members {alternatives : List Alternative} {a : Alternative}
    (h : a ∈ alternatives) : ∃ group ∈ ofAlternatives alternatives, a ∈ group.members := by
  fun_induction ofAlternatives alternatives with
  | case1 => cases h
  | case2 b rest hhead ih =>
      rcases List.mem_cons.mp h with rfl | h
      · exact ⟨.single a, List.mem_cons_self, List.mem_cons_self⟩
      · obtain ⟨group, hgroup, ha⟩ := ih h
        exact ⟨group, List.mem_cons_of_mem _ hgroup, ha⟩
  | case3 b rest s hhead ih =>
      have hmembers := members_ofMembers (leading?_beginningWith hhead rest)
      by_cases hs : a ∈ b :: beginningWith s rest
      · exact ⟨_, List.mem_cons_self, hmembers ▸ hs⟩
      · have hne : a ≠ b := fun heq => hs (heq ▸ List.mem_cons_self)
        have hrest : a ∈ rest := (List.mem_cons.mp h).resolve_left hne
        have hnot : a ∈ notBeginningWith s rest := by
          refine List.mem_filter.mpr ⟨hrest, ?_⟩
          by_cases hlead : Alternative.leading? a = some s
          · exact absurd (List.mem_cons_of_mem b (List.mem_filter.mpr ⟨hrest, by simp [hlead]⟩)) hs
          · simp [hlead]
        obtain ⟨group, hgroup, ha⟩ := ih hnot
        exact ⟨group, List.mem_cons_of_mem _ hgroup, ha⟩

theorem mem_of_single_mem {alternatives : List Alternative} {a : Alternative}
    (h : single a ∈ ofAlternatives alternatives) : a ∈ alternatives :=
  (sublist_of_mem h).subset List.mem_cons_self

theorem mem_of_shared_mem {alternatives : List Alternative} {s : Symbol}
    {suffixes : List (List Symbol)} (h : shared s suffixes ∈ ofAlternatives alternatives)
    {suffix : List Symbol} (hsuffix : suffix ∈ suffixes) : s :: suffix ∈ alternatives :=
  (sublist_of_mem h).subset (List.mem_map_of_mem hsuffix)

end Group

namespace FactoredGroups

structure Splits (f : FactoredGroups) (head : Symbol) (suffixes : List (List Symbol))
    (p : Production) : Prop where
  mem : p ∈ f.productions
  alternatives : p.alternatives = suffixes.map Alternative.orEpsilon
  head_mem : [head, p.left] ∈ f.alternatives

theorem Splits.mono {f f' : FactoredGroups} {head : Symbol} {suffixes : List (List Symbol)}
    {p : Production} (h : f.Splits head suffixes p) (hproductions : f.productions ⊆ f'.productions)
    (halternatives : f.alternatives ⊆ f'.alternatives) : f'.Splits head suffixes p :=
  ⟨hproductions h.mem, h.alternatives, halternatives h.head_mem⟩

end FactoredGroups

section Groups

variable (left : Symbol) (symbols : SymbolTable) (groups : List Group)

theorem named_factorGroups :
    (factorGroups left symbols groups).symbols.named =
      symbols.named ++ (factorGroups left symbols groups).splits.map Split.suffix := by
  induction groups generalizing symbols with
  | nil => simp [factorGroups]
  | cons group rest ih =>
      cases group with
      | single a => exact ih symbols
      | shared s suffixes =>
          rw [factorGroups]
          simp only [List.map_cons]
          rw [ih, SymbolTable.fresh, SymbolTable.push, List.append_assoc, List.singleton_append]

theorem wellFormed_factorGroups (h : symbols.WellFormed) :
    (factorGroups left symbols groups).symbols.WellFormed := by
  induction groups generalizing symbols with
  | nil => exact h
  | cons group rest ih =>
      cases group with
      | single a => exact ih symbols h
      | shared s suffixes => exact ih _ (h.fresh left.name)

/-- A new left side is named after the one that its split is part of. -/
theorem exists_candidate_of_mem_factorGroups {s : Symbol}
    (h : s ∈ (factorGroups left symbols groups).splits.map Split.suffix) :
    ∃ n, s = .nonTerminal (SymbolTable.candidate left.name n) := by
  induction groups generalizing symbols with
  | nil => cases h
  | cons group rest ih =>
      cases group with
      | single a => exact ih symbols h
      | shared t suffixes =>
          rcases List.mem_cons.mp h with rfl | h
          · exact ⟨_, rfl⟩
          · exact ih _ h

theorem lefts_factorGroups :
    (factorGroups left symbols groups).productions.map Production.left =
      (factorGroups left symbols groups).splits.map Split.suffix := by
  induction groups generalizing symbols with
  | nil => rfl
  | cons group rest ih =>
      cases group with
      | single a => exact ih symbols
      | shared s suffixes => exact congrArg (_ :: ·) (ih _)

variable {left symbols groups}

theorem mem_alternatives_factorGroups {a : Alternative}
    (h : a ∈ (factorGroups left symbols groups).alternatives) :
    .single a ∈ groups ∨ ∃ s suffixes p, .shared s suffixes ∈ groups ∧
      (factorGroups left symbols groups).Splits s suffixes p ∧ a = [s, p.left] := by
  induction groups generalizing symbols with
  | nil => cases h
  | cons group rest ih =>
      cases group with
      | single b =>
          rcases List.mem_cons.mp h with rfl | h
          · exact .inl List.mem_cons_self
          · rcases ih h with h | ⟨s, suffixes, p, hgroup, hsplit, rfl⟩
            · exact .inl (List.mem_cons_of_mem _ h)
            · exact .inr ⟨s, suffixes, p, List.mem_cons_of_mem _ hgroup,
                hsplit.mono (List.Subset.refl _) (List.subset_cons_self _ _), rfl⟩
      | shared s suffixes =>
          rcases List.mem_cons.mp h with rfl | h
          · exact .inr ⟨s, suffixes, ⟨_, suffixes.map Alternative.orEpsilon⟩, List.mem_cons_self,
              ⟨List.mem_cons_self, rfl, List.mem_cons_self⟩, rfl⟩
          · rcases ih h with h | ⟨s', suffixes', p, hgroup, hsplit, rfl⟩
            · exact .inl (List.mem_cons_of_mem _ h)
            · exact .inr ⟨s', suffixes', p, List.mem_cons_of_mem _ hgroup,
                hsplit.mono (List.subset_cons_self _ _) (List.subset_cons_self _ _), rfl⟩

theorem exists_splits_of_mem_productions {p : Production}
    (h : p ∈ (factorGroups left symbols groups).productions) :
    ∃ s suffixes, .shared s suffixes ∈ groups ∧
      (factorGroups left symbols groups).Splits s suffixes p := by
  induction groups generalizing symbols with
  | nil => cases h
  | cons group rest ih =>
      cases group with
      | single b =>
          obtain ⟨s, suffixes, hgroup, hsplit⟩ := ih h
          exact ⟨s, suffixes, List.mem_cons_of_mem _ hgroup,
            hsplit.mono (List.Subset.refl _) (List.subset_cons_self _ _)⟩
      | shared s suffixes =>
          rcases List.mem_cons.mp h with rfl | h
          · exact ⟨s, suffixes, List.mem_cons_self, List.mem_cons_self, rfl, List.mem_cons_self⟩
          · obtain ⟨s', suffixes', hgroup, hsplit⟩ := ih h
            exact ⟨s', suffixes', List.mem_cons_of_mem _ hgroup,
              hsplit.mono (List.subset_cons_self _ _) (List.subset_cons_self _ _)⟩

theorem single_mem_factorGroups {a : Alternative} (h : .single a ∈ groups) :
    a ∈ (factorGroups left symbols groups).alternatives := by
  induction groups generalizing symbols with
  | nil => cases h
  | cons group rest ih =>
      rcases List.mem_cons.mp h with rfl | hrest
      · exact List.mem_cons_self
      · cases group with
        | single b => exact List.mem_cons_of_mem _ (ih hrest)
        | shared s suffixes => exact List.mem_cons_of_mem _ (ih hrest)

theorem exists_splits_of_shared_mem {s : Symbol} {suffixes : List (List Symbol)}
    (h : .shared s suffixes ∈ groups) :
    ∃ p, (factorGroups left symbols groups).Splits s suffixes p := by
  induction groups generalizing symbols with
  | nil => cases h
  | cons group rest ih =>
      rcases List.mem_cons.mp h with rfl | hrest
      · exact ⟨⟨_, suffixes.map Alternative.orEpsilon⟩, List.mem_cons_self, rfl, List.mem_cons_self⟩
      · cases group with
        | single b =>
            obtain ⟨p, hsplit⟩ := ih hrest
            exact ⟨p, hsplit.mono (List.Subset.refl _) (List.subset_cons_self _ _)⟩
        | shared s' suffixes' =>
            obtain ⟨p, hsplit⟩ := ih hrest
            exact ⟨p, hsplit.mono (List.subset_cons_self _ _) (List.subset_cons_self _ _)⟩

end Groups

structure FactorsInto (q : Production) (r : FactoredProductions) (f : FactoredGroups) : Prop where
  eq : ∃ symbols, f = factorGroups q.left symbols (Group.ofAlternatives q.alternatives)
  left_mem : ⟨q.left, f.alternatives⟩ ∈ r.productions
  productions : f.productions ⊆ r.productions
  splits : f.splits ⊆ r.splits

section Productions

variable (symbols : SymbolTable) (productions : List Production)

theorem named_factorProductions :
    (factorProductions symbols productions).symbols.named =
      symbols.named ++ (factorProductions symbols productions).splits.map Split.suffix := by
  induction productions generalizing symbols with
  | nil => simp [factorProductions]
  | cons p rest ih =>
      rw [factorProductions]
      simp only [List.map_append]
      rw [ih, named_factorGroups, List.append_assoc]

theorem wellFormed_factorProductions (h : symbols.WellFormed) :
    (factorProductions symbols productions).symbols.WellFormed := by
  induction productions generalizing symbols with
  | nil => exact h
  | cons p rest ih => exact ih _ (wellFormed_factorGroups p.left symbols _ h)

theorem exists_candidate_of_mem_factorProductions {s : Symbol}
    (h : s ∈ (factorProductions symbols productions).splits.map Split.suffix) :
    ∃ p ∈ productions, ∃ n, s = .nonTerminal (SymbolTable.candidate p.left.name n) := by
  induction productions generalizing symbols with
  | nil => cases h
  | cons p rest ih =>
      rw [factorProductions, List.map_append, List.mem_append] at h
      rcases h with h | h
      · exact ⟨p, List.mem_cons_self, exists_candidate_of_mem_factorGroups _ _ _ h⟩
      · obtain ⟨q, hq, hname⟩ := ih _ h
        exact ⟨q, List.mem_cons_of_mem _ hq, hname⟩

theorem exists_eq_of_mem_factorProductions {s : Symbol}
    (h : s ∈ (factorProductions symbols productions).splits.map Split.suffix) :
    ∃ name, s = .nonTerminal name := by
  obtain ⟨p, -, n, hname⟩ := exists_candidate_of_mem_factorProductions symbols productions h
  exact ⟨_, hname⟩

theorem perm_lefts_factorProductions :
    ((factorProductions symbols productions).productions.map Production.left).Perm
      (productions.map Production.left ++
        (factorProductions symbols productions).splits.map Split.suffix) := by
  induction productions generalizing symbols with
  | nil => exact .refl _
  | cons p rest ih =>
      rw [factorProductions]
      simp only [List.cons_append, List.map_cons, List.map_append, lefts_factorGroups]
      refine .cons _ ?_
      refine ((ih _).append_left _).trans ?_
      rw [← List.append_assoc, ← List.append_assoc]
      exact List.perm_append_comm.append_right _

theorem factorsInto_cons (q : Production) :
    FactorsInto q (factorProductions symbols (q :: productions))
      (factorGroups q.left symbols (Group.ofAlternatives q.alternatives)) where
  eq := ⟨symbols, rfl⟩
  left_mem := List.mem_cons_self
  productions _ hp := List.mem_cons_of_mem _ (List.mem_append_left _ hp)
  splits _ hsplit := List.mem_append_left _ hsplit

variable {symbols productions}

theorem FactorsInto.cons {p q : Production} {f : FactoredGroups}
    (h : FactorsInto q (factorProductions
      (factorGroups p.left symbols (Group.ofAlternatives p.alternatives)).symbols productions) f) :
    FactorsInto q (factorProductions symbols (p :: productions)) f where
  eq := h.eq
  left_mem := List.mem_cons_of_mem _ (List.mem_append_right _ h.left_mem)
  productions _ hp := List.mem_cons_of_mem _ (List.mem_append_right _ (h.productions hp))
  splits _ hsplit := List.mem_append_right _ (h.splits hsplit)

theorem exists_factorsInto (symbols : SymbolTable) {q : Production} (h : q ∈ productions) :
    ∃ f, FactorsInto q (factorProductions symbols productions) f := by
  induction productions generalizing symbols with
  | nil => cases h
  | cons p rest ih =>
      rcases List.mem_cons.mp h with rfl | h
      · exact ⟨_, factorsInto_cons symbols rest q⟩
      · obtain ⟨f, hf⟩ := ih _ h
        exact ⟨f, hf.cons⟩

theorem exists_factorsInto_of_mem {p : Production}
    (h : p ∈ (factorProductions symbols productions).productions) :
    ∃ q ∈ productions, ∃ f, FactorsInto q (factorProductions symbols productions) f ∧
      (p = ⟨q.left, f.alternatives⟩ ∨ p ∈ f.productions) := by
  induction productions generalizing symbols with
  | nil => cases h
  | cons q rest ih =>
      rcases List.mem_cons.mp h with rfl | h
      · exact ⟨q, List.mem_cons_self, _, factorsInto_cons symbols rest q, .inl rfl⟩
      · rcases List.mem_append.mp h with h | h
        · exact ⟨q, List.mem_cons_self, _, factorsInto_cons symbols rest q, .inr h⟩
        · obtain ⟨q', hq', f, hf, hp⟩ := ih h
          exact ⟨q', List.mem_cons_of_mem _ hq', f, hf.cons, hp⟩

end Productions

namespace Grammar

/-- The alternatives `head σ` of `left` that a pass has split off: the suffixes `σ` have become the
production `p`. -/
structure IsSplit (g : Grammar) (left head : Symbol) (suffixes : List (List Symbol))
    (p : Production) : Prop where
  mem : p ∈ g.factor.productions
  alternatives : p.alternatives = suffixes.map Alternative.orEpsilon
  left_mem : p.left ∈ g.factorPass.2.map Split.suffix
  head_mem : (left, [head, p.left]) ∈ g.factor.rules
  rule_mem : ∀ suffix ∈ suffixes, (left, head :: suffix) ∈ g.rules
  two_le : 2 ≤ suffixes.length
  head_ne : head ≠ .epsilon

theorem isSplit_of_splits {g : Grammar} {q : Production} (hq : q ∈ g.productions)
    {f : FactoredGroups} (hf : FactorsInto q (factorProductions g.symbols g.productions) f)
    {s : Symbol} {suffixes : List (List Symbol)}
    (hgroup : .shared s suffixes ∈ Group.ofAlternatives q.alternatives) {p : Production}
    (hsplit : f.Splits s suffixes p) : g.IsSplit q.left s suffixes p where
  mem := hf.productions hsplit.mem
  alternatives := hsplit.alternatives
  left_mem := by
    obtain ⟨symbols, rfl⟩ := hf.eq
    have hleft := List.mem_map_of_mem (f := Production.left) hsplit.mem
    rw [lefts_factorGroups] at hleft
    exact List.map_subset _ hf.splits hleft
  head_mem := (mem_rules_iff _ _ _).mpr ⟨_, hf.left_mem, rfl, hsplit.head_mem⟩
  rule_mem suffix hsuffix :=
    (mem_rules_iff _ _ _).mpr ⟨q, hq, rfl, Group.mem_of_shared_mem hgroup hsuffix⟩
  two_le := (Group.two_le_of_shared_mem hgroup).1
  head_ne := (Group.two_le_of_shared_mem hgroup).2

theorem IsSplit.suffixes_ne_nil {g : Grammar} {left head : Symbol} {suffixes : List (List Symbol)}
    {p : Production} (h : g.IsSplit left head suffixes p) : suffixes ≠ [] :=
  List.ne_nil_of_length_pos (Nat.lt_of_lt_of_le (by decide) h.two_le)

theorem IsSplit.suffix_mem {g : Grammar} {left head : Symbol} {suffixes : List (List Symbol)}
    {p : Production} (h : g.IsSplit left head suffixes p) {suffix : List Symbol}
    (hsuffix : suffix ∈ suffixes) : (p.left, Alternative.orEpsilon suffix) ∈ g.factor.rules := by
  refine (mem_rules_iff _ _ _).mpr ⟨p, h.mem, rfl, ?_⟩
  rw [h.alternatives]
  exact List.mem_map_of_mem hsuffix

theorem IsSplit.exists_left_eq {g : Grammar} {left head : Symbol} {suffixes : List (List Symbol)}
    {p : Production} (h : g.IsSplit left head suffixes p) : ∃ name, p.left = .nonTerminal name :=
  exists_eq_of_mem_factorProductions _ _ h.left_mem

/-- A rule after a pass is an old rule, or leads to suffixes, or is one of the suffixes. -/
theorem mem_rules_factor {g : Grammar} {left : Symbol} {a : Alternative}
    (h : (left, a) ∈ g.factor.rules) :
    (left, a) ∈ g.rules ∨
      (∃ head suffixes p, g.IsSplit left head suffixes p ∧ a = [head, p.left]) ∨
      ∃ old head suffixes p, g.IsSplit old head suffixes p ∧ p.left = left ∧
        a ∈ p.alternatives := by
  obtain ⟨p, hp, rfl, ha⟩ := (mem_rules_iff _ _ _).mp h
  obtain ⟨q, hq, f, hf, hpf⟩ := exists_factorsInto_of_mem hp
  obtain ⟨symbols, rfl⟩ := hf.eq
  rcases hpf with rfl | hpf
  · rcases mem_alternatives_factorGroups ha with hsingle | ⟨s, suffixes, p, hgroup, hsplit, rfl⟩
    · exact .inl ((mem_rules_iff _ _ _).mpr ⟨q, hq, rfl, Group.mem_of_single_mem hsingle⟩)
    · exact .inr (.inl ⟨s, suffixes, p, isSplit_of_splits hq hf hgroup hsplit, rfl⟩)
  · obtain ⟨s, suffixes, hgroup, hsplit⟩ := exists_splits_of_mem_productions hpf
    exact .inr (.inr ⟨q.left, s, suffixes, p, isSplit_of_splits hq hf hgroup hsplit, rfl, ha⟩)

theorem mem_rules_of_factor {g : Grammar} {left : Symbol} {a : Alternative}
    (h : (left, a) ∈ g.rules) :
    (left, a) ∈ g.factor.rules ∨
      ∃ head suffixes p, g.IsSplit left head suffixes p ∧
        ∃ suffix ∈ suffixes, a = head :: suffix := by
  obtain ⟨q, hq, rfl, ha⟩ := (mem_rules_iff _ _ _).mp h
  obtain ⟨f, hf⟩ := exists_factorsInto g.symbols hq
  obtain ⟨symbols, rfl⟩ := hf.eq
  obtain ⟨group, hgroup, hmem⟩ := Group.exists_mem_members ha
  cases group with
  | single b =>
      rw [Group.members, List.mem_singleton] at hmem
      subst hmem
      exact .inl ((mem_rules_iff _ _ _).mpr ⟨_, hf.left_mem, rfl, single_mem_factorGroups hgroup⟩)
  | shared s suffixes =>
      obtain ⟨suffix, hsuffix, rfl⟩ := List.mem_map.mp hmem
      obtain ⟨p, hsplit⟩ := exists_splits_of_shared_mem hgroup
      exact .inr ⟨s, suffixes, p, isSplit_of_splits hq hf hgroup hsplit, suffix, hsuffix, rfl⟩

theorem start?_factor (g : Grammar) : g.factor.start? = g.start? := rfl

theorem named_factor (g : Grammar) :
    g.factor.symbols.named = g.symbols.named ++ g.factorPass.2.map Split.suffix :=
  named_factorProductions g.symbols g.productions

theorem nonTerminals_subset_factor (g : Grammar) : g.nonTerminals ⊆ g.factor.nonTerminals := by
  intro s hs
  rw [mem_nonTerminals] at hs ⊢
  rw [named_factor]
  exact ⟨List.mem_append_left _ hs.1, hs.2⟩

def SuffixesEnter (g : Grammar) : Prop :=
  g.symbols.internAll (g.factorPass.2.map Split.suffix) = (g.factor.symbols, none)

theorem WellFormed.suffixesEnter {g : Grammar} (h : g.WellFormed) : g.SuffixesEnter := by
  have heq : g.factor.symbols = ⟨g.symbols.named ++ g.factorPass.2.map Split.suffix⟩ :=
    congrArg SymbolTable.mk (named_factor g)
  have hwell := wellFormed_factorProductions g.symbols g.productions h.symbols
  rw [SuffixesEnter, heq]
  exact SymbolTable.internAll_eq_of_wellFormed _ _ (heq ▸ hwell)

namespace WellFormed

variable {g : Grammar}

theorem suffixes_nodup (h : g.WellFormed) : (g.factorPass.2.map Split.suffix).Nodup ∧
    ∀ s ∈ g.factorPass.2.map Split.suffix, s ∉ g.symbols.named := by
  have hnodup : g.factor.symbols.named.Nodup :=
    (wellFormed_factorProductions g.symbols g.productions h.symbols).named_nodup
  rw [named_factor] at hnodup
  obtain ⟨-, hsuffixes, hdisjoint⟩ := List.nodup_append.mp hnodup
  exact ⟨hsuffixes, fun s hs hmem => hdisjoint s hmem s hs rfl⟩

theorem left_notMem_of_isSplit (h : g.WellFormed) {left head : Symbol}
    {suffixes : List (List Symbol)} {p : Production} (hsplit : g.IsSplit left head suffixes p) :
    p.left ∉ g.symbols.named :=
  h.suffixes_nodup.2 _ hsplit.left_mem

theorem left_mem_named_of_isSplit (h : g.WellFormed) {left head : Symbol}
    {suffixes : List (List Symbol)} {p : Production} (hsplit : g.IsSplit left head suffixes p) :
    left ∈ g.symbols.named := by
  obtain ⟨suffix, hsuffix⟩ := List.exists_mem_of_ne_nil _ hsplit.suffixes_ne_nil
  exact (mem_nonTerminals.mp (h.left_mem_of_rule (hsplit.rule_mem suffix hsuffix))).1

theorem mem_named_of_isSplit (h : g.WellFormed) {left head : Symbol}
    {suffixes : List (List Symbol)} {p : Production} (hsplit : g.IsSplit left head suffixes p) :
    head ∈ g.symbols.named ∧
      ∀ suffix ∈ suffixes, ∀ s ∈ suffix, s = .epsilon ∨ s ∈ g.symbols.named := by
  have hrule := fun suffix hsuffix => h.mem_named _ (hsplit.rule_mem suffix hsuffix)
  constructor
  · obtain ⟨suffix, hsuffix⟩ := List.exists_mem_of_ne_nil _ hsplit.suffixes_ne_nil
    exact (hrule suffix hsuffix head List.mem_cons_self).resolve_left hsplit.head_ne
  · exact fun suffix hsuffix s hs => hrule suffix hsuffix s (List.mem_cons_of_mem _ hs)

theorem lefts_nodup_factor (h : g.WellFormed) :
    (g.factor.productions.map Production.left).Nodup := by
  refine (perm_lefts_factorProductions g.symbols g.productions).nodup_iff.mpr ?_
  refine List.nodup_append.mpr ⟨h.lefts_nodup, h.suffixes_nodup.1, ?_⟩
  rintro s hs t ht rfl
  obtain ⟨p, hp, rfl⟩ := List.mem_map.mp hs
  exact h.suffixes_nodup.2 _ ht (mem_nonTerminals.mp (h.left_mem p hp)).1

theorem left_mem_factor (h : g.WellFormed) {p : Production} (hp : p ∈ g.factor.productions) :
    p.left ∈ g.factor.nonTerminals := by
  have hleft := (perm_lefts_factorProductions g.symbols g.productions).subset
    (List.mem_map_of_mem (f := Production.left) hp)
  rcases List.mem_append.mp hleft with hleft | hleft
  · obtain ⟨q, hq, heq⟩ := List.mem_map.mp hleft
    exact nonTerminals_subset_factor g (heq ▸ h.left_mem q hq)
  · rw [mem_nonTerminals, named_factor]
    obtain ⟨name, heq⟩ := exists_eq_of_mem_factorProductions _ _ hleft
    exact ⟨List.mem_append_right _ hleft, heq ▸ rfl⟩

theorem factor (h : g.WellFormed) : g.factor.WellFormed where
  symbols := wellFormed_factorProductions g.symbols g.productions h.symbols
  lefts_nodup := h.lefts_nodup_factor
  left_mem _ hp := h.left_mem_factor hp
  mem_named := by
    rintro ⟨left, a⟩ hr s hs
    rw [named_factor, List.mem_append]
    rcases mem_rules_factor hr with hr | ⟨head, suffixes, p, hsplit, rfl⟩ |
      ⟨old, head, suffixes, p, hsplit, rfl, ha⟩
    · exact (h.mem_named _ hr s hs).imp_right .inl
    · rcases List.mem_cons.mp hs with rfl | hs
      · exact .inr (.inl (h.mem_named_of_isSplit hsplit).1)
      · obtain rfl := List.mem_singleton.mp hs
        exact .inr (.inr hsplit.left_mem)
    · rw [hsplit.alternatives] at ha
      obtain ⟨suffix, hsuffix, rfl⟩ := List.mem_map.mp ha
      rcases Alternative.mem_of_mem_orEpsilon hs with hs | hs
      · exact .inl hs
      · exact ((h.mem_named_of_isSplit hsplit).2 suffix hsuffix s hs).imp_right .inl
  normal := by
    rintro ⟨left, a⟩ hr
    rcases mem_rules_factor hr with hr | ⟨head, suffixes, p, hsplit, rfl⟩ |
      ⟨old, head, suffixes, p, hsplit, rfl, ha⟩
    · exact h.normal _ hr
    · obtain ⟨name, hleft⟩ := hsplit.exists_left_eq
      refine Alternative.ofSequence_of_notMem (fun hmem => ?_) (List.cons_ne_nil _ _)
      rcases List.mem_cons.mp hmem with heq | hmem
      · exact hsplit.head_ne heq.symm
      · rw [← List.mem_singleton.mp hmem] at hleft
        cases hleft
    · rw [hsplit.alternatives] at ha
      obtain ⟨suffix, hsuffix, rfl⟩ := List.mem_map.mp ha
      have hnormal := h.normal _ (hsplit.rule_mem suffix hsuffix)
      exact Alternative.ofSequence_orEpsilon
        (Alternative.epsilon_notMem_of_ofSequence_eq hsplit.head_ne hnormal)
  start_mem s hs := nonTerminals_subset_factor g (h.start_mem s hs)

end WellFormed

end Grammar

end Predictive
