import Predictive.Proofs.Factoring.Grouping
import Predictive.Proofs.Grammar.Defined
import Predictive.Proofs.Sets.Context

/-!
# Left factoring keeps FIRST and FOLLOW

The FIRST sets of a grammar are the least sets that are closed under its rules, and with them the
FOLLOW sets are. So no derivation of one grammar has to be followed into the other: it is enough
that closed sets of the one are closed sets of the other.

Sets that are closed after a pass were closed before it (`FirstClosed.of_factor`,
`FollowClosed.of_factor`). For the other direction the sets of the old grammar need a set for every
new non-terminal (`withNew`). The FIRST of a new non-terminal is that of its suffixes together, and
its FOLLOW is that of the left side that it was split off from; these are closed sets of the new
grammar (`FirstClosed.unfactored`, `FollowClosed.unfactored`). That there is one such left side is
read off the record of the pass, in which no new non-terminal stands twice.
-/

namespace Predictive

/-! ### The record of a pass -/

theorem Group.mem_suffixes_of_mem {alternatives : List Alternative} {s : Symbol}
    {suffixes : List (List Symbol)} (h : shared s suffixes ∈ ofAlternatives alternatives)
    {suffix : List Symbol} (hmem : s :: suffix ∈ alternatives) : suffix ∈ suffixes := by
  have hlead := Alternative.leading?_cons (two_le_of_shared_mem h).2 suffix
  rw [suffixes_eq_of_shared_mem h]
  exact List.mem_map.mpr ⟨_, List.mem_filter.mpr ⟨hmem, by simp [hlead]⟩, rfl⟩

section Record

variable {left : Symbol} {symbols : SymbolTable} {groups : List Group}

theorem exists_splits_of_mem_splits {split : Split}
    (h : split ∈ (factorGroups left symbols groups).splits) :
    split.left = left ∧ ∃ suffixes p, .shared split.head suffixes ∈ groups ∧
      (factorGroups left symbols groups).Splits split.head suffixes p ∧ p.left = split.suffix := by
  induction groups generalizing symbols with
  | nil => cases h
  | cons group rest ih =>
      cases group with
      | single b =>
          obtain ⟨hleft, suffixes, p, hgroup, hsplit, hp⟩ := ih h
          exact ⟨hleft, suffixes, p, List.mem_cons_of_mem _ hgroup,
            hsplit.mono (List.Subset.refl _) (List.subset_cons_self _ _), hp⟩
      | shared s suffixes =>
          rcases List.mem_cons.mp h with rfl | h
          · exact ⟨rfl, suffixes, ⟨_, suffixes.map Alternative.orEpsilon⟩, List.mem_cons_self,
              ⟨List.mem_cons_self, rfl, List.mem_cons_self⟩, rfl⟩
          · obtain ⟨hleft, suffixes', p, hgroup, hsplit, hp⟩ := ih h
            exact ⟨hleft, suffixes', p, List.mem_cons_of_mem _ hgroup,
              hsplit.mono (List.subset_cons_self _ _) (List.subset_cons_self _ _), hp⟩

theorem exists_split_of_mem_alternatives {a : Alternative}
    (h : a ∈ (factorGroups left symbols groups).alternatives) :
    .single a ∈ groups ∨ ∃ split ∈ (factorGroups left symbols groups).splits,
      split.left = left ∧ a = [split.head, split.suffix] := by
  induction groups generalizing symbols with
  | nil => cases h
  | cons group rest ih =>
      cases group with
      | single b =>
          rcases List.mem_cons.mp h with rfl | h
          · exact .inl List.mem_cons_self
          · exact (ih h).imp_left (List.mem_cons_of_mem _)
      | shared s suffixes =>
          rcases List.mem_cons.mp h with rfl | h
          · exact .inr ⟨_, List.mem_cons_self, rfl, rfl⟩
          · rcases ih h with hsingle | ⟨split, hsplit, heq⟩
            · exact .inl (List.mem_cons_of_mem _ hsingle)
            · exact .inr ⟨split, List.mem_cons_of_mem _ hsplit, heq⟩

theorem exists_factorsInto_of_mem_splits {productions : List Production} {split : Split}
    (h : split ∈ (factorProductions symbols productions).splits) :
    ∃ q ∈ productions, ∃ f, FactorsInto q (factorProductions symbols productions) f ∧
      split ∈ f.splits := by
  induction productions generalizing symbols with
  | nil => cases h
  | cons q rest ih =>
      rcases List.mem_append.mp h with h | h
      · exact ⟨q, List.mem_cons_self, _, factorsInto_cons symbols rest q, h⟩
      · obtain ⟨q', hq', f, hf, hsplit⟩ := ih h
        exact ⟨q', List.mem_cons_of_mem _ hq', f, hf.cons, hsplit⟩

end Record

namespace Grammar

namespace WellFormed

variable {g : Grammar}

/-- What is in the record is a split of all alternatives that begin with its symbol. -/
theorem exists_isSplit (hg : g.WellFormed) {split : Split} (h : split ∈ g.factorPass.2) :
    ∃ suffixes p, g.IsSplit split.left split.head suffixes p ∧ p.left = split.suffix ∧
      ∀ suffix, (split.left, split.head :: suffix) ∈ g.rules ↔ suffix ∈ suffixes := by
  obtain ⟨q, hq, f, hf, hsplit⟩ := exists_factorsInto_of_mem_splits h
  obtain ⟨symbols, rfl⟩ := hf.eq
  obtain ⟨hleft, suffixes, p, hgroup, hsplits, hp⟩ := exists_splits_of_mem_splits hsplit
  have his := isSplit_of_splits hq hf hgroup hsplits
  rw [← hleft] at his
  refine ⟨suffixes, p, his, hp, fun suffix => ⟨fun hrule => ?_, his.rule_mem suffix⟩⟩
  rw [hleft] at hrule
  exact Group.mem_suffixes_of_mem hgroup (hg.mem_alternatives_of_rule hq hrule)

theorem exists_split (hg : g.WellFormed) {left head : Symbol} {suffixes : List (List Symbol)}
    {p : Production} (h : g.IsSplit left head suffixes p) :
    ∃ split ∈ g.factorPass.2, split.left = left ∧ split.head = head ∧ split.suffix = p.left := by
  obtain ⟨p', hp', hleft, hhead⟩ := (mem_rules_iff _ _ _).mp h.head_mem
  obtain ⟨q, hq, f, hf, hpf⟩ := exists_factorsInto_of_mem hp'
  obtain ⟨symbols, rfl⟩ := hf.eq
  rcases hpf with rfl | hpf
  · rcases exists_split_of_mem_alternatives hhead with hsingle | ⟨split, hsplit, hsleft, heq⟩
    · -- the alternative would be an old one, but its second symbol is new
      have hrule : (q.left, [head, p.left]) ∈ g.rules :=
        (mem_rules_iff _ _ _).mpr ⟨q, hq, rfl, Group.mem_of_single_mem hsingle⟩
      obtain ⟨name, hname⟩ := h.exists_left_eq
      rcases hg.mem_named _ hrule p.left (by simp) with heq | hmem
      · rw [hname] at heq
        cases heq
      · exact absurd hmem (hg.left_notMem_of_isSplit h)
    · simp only [List.cons.injEq, and_true] at heq
      exact ⟨split, hf.splits hsplit, hsleft.trans hleft, heq.1.symm, heq.2.symm⟩
  · -- the left side would be new, but it is an old one
    have hnew := List.mem_map_of_mem (f := Production.left) hpf
    rw [lefts_factorGroups] at hnew
    exact absurd (hleft ▸ hg.left_mem_named_of_isSplit h)
      (hg.suffixes_nodup.2 _ (List.map_subset _ hf.splits hnew))

theorem split_unique (hg : g.WellFormed) {split split' : Split} (h : split ∈ g.factorPass.2)
    (h' : split' ∈ g.factorPass.2) (heq : split.suffix = split'.suffix) : split = split' :=
  List.inj_on_of_nodup_map hg.suffixes_nodup.1 h h' heq

end WellFormed

variable {g : Grammar} {first follow : SymbolSets}

theorem exists_split_of_notMem {A : Symbol} (hA : A ∈ g.factor.nonTerminals)
    (hnew : A ∉ g.nonTerminals) : ∃ split ∈ g.factorPass.2, split.suffix = A := by
  obtain ⟨hnamed, hkind⟩ := mem_nonTerminals.mp hA
  rw [named_factor] at hnamed
  rcases List.mem_append.mp hnamed with hold | hsuffix
  · exact absurd (mem_nonTerminals.mpr ⟨hold, hkind⟩) hnew
  · exact List.mem_map.mp hsuffix

/-! ### Closed sets after a pass were closed before it -/

theorem firstOf_orEpsilon (first : SymbolSets) (α : List Symbol) :
    firstOf first (Alternative.orEpsilon α) = firstOf first α := by
  cases α <;> rfl

theorem IsSplit.contains_of_mem_firstOf {left head : Symbol} {suffixes : List (List Symbol)}
    {p : Production} (hsplit : g.IsSplit left head suffixes p) (h : g.factor.FirstClosed first)
    {suffix : List Symbol} (hsuffix : suffix ∈ suffixes) {s : Symbol}
    (hs : s ∈ firstOf first suffix) : first.contains p.left s = true :=
  h _ _ (hsplit.suffix_mem hsuffix) s (firstOf_orEpsilon first suffix ▸ hs)

theorem IsSplit.mem_firstOf_left {left head : Symbol} {suffixes : List (List Symbol)}
    {p : Production} (hsplit : g.IsSplit left head suffixes p) {s : Symbol} :
    s ∈ firstOf first [p.left] ↔ first.contains p.left s = true := by
  obtain ⟨name, hname⟩ := hsplit.exists_left_eq
  rw [hname, mem_firstOf_singleton]

theorem FirstClosed.of_factor (h : g.factor.FirstClosed first) : g.FirstClosed first := by
  intro left a hrule s hs
  rcases mem_rules_of_factor hrule with hkept | ⟨head, suffixes, p, hsplit, suffix, hsuffix, rfl⟩
  · exact h left a hkept s hs
  · have hrest : ∀ t ∈ firstOf first suffix, t ∈ firstOf first [p.left] := fun t ht =>
      hsplit.mem_firstOf_left.mpr (hsplit.contains_of_mem_firstOf h hsuffix ht)
    apply h left _ hsplit.head_mem
    rw [← List.singleton_append, mem_firstOf_append] at hs ⊢
    exact hs.imp_right fun hs => ⟨hs.1, hrest s hs.2⟩

theorem mem_occurrences_iff {o : Occurrence} :
    o ∈ g.occurrences ↔ o.symbol.isNonTerminal = true ∧
      ∃ before, (o.left, before ++ o.symbol :: o.rest) ∈ g.rules := by
  constructor
  · exact exists_rule_of_mem_occurrences
  · rintro ⟨hsymbol, before, hrule⟩
    exact List.mem_flatMap.mpr ⟨_, hrule,
      Occurrence.mem_inSequence_of_suffix hsymbol (List.suffix_append before _)⟩

/-- An old occurrence is kept, or stands at the head of a split, or in a suffix. -/
theorem mem_occurrences_of_factor {o : Occurrence} (ho : o ∈ g.occurrences) :
    o ∈ g.factor.occurrences ∨ ∃ head suffixes p, g.IsSplit o.left head suffixes p ∧
      (o.rest ∈ suffixes ∧ ⟨o.left, o.symbol, [p.left]⟩ ∈ g.factor.occurrences ∨
        ⟨p.left, o.symbol, o.rest⟩ ∈ g.factor.occurrences) := by
  obtain ⟨hsymbol, before, hrule⟩ := mem_occurrences_iff.mp ho
  rcases mem_rules_of_factor hrule with hkept | ⟨head, suffixes, p, hsplit, suffix, hsuffix, heq⟩
  · exact .inl (mem_occurrences_iff.mpr ⟨hsymbol, before, hkept⟩)
  · refine .inr ⟨head, suffixes, p, hsplit, ?_⟩
    cases before with
    | nil =>
        obtain ⟨hhead, hrest⟩ := List.cons.inj heq
        refine .inl ⟨hrest ▸ hsuffix, mem_occurrences_iff.mpr ⟨hsymbol, [], ?_⟩⟩
        rw [hhead]
        exact hsplit.head_mem
    | cons x before =>
        rw [List.cons_append] at heq
        obtain ⟨-, rfl⟩ := List.cons.inj heq
        have hmem := hsplit.suffix_mem hsuffix
        have hne : Alternative.orEpsilon (before ++ o.symbol :: o.rest) =
            before ++ o.symbol :: o.rest := by
          cases before <;> rfl
        rw [hne] at hmem
        exact .inr (mem_occurrences_iff.mpr ⟨hsymbol, before, hmem⟩)

theorem IsSplit.mem_occurrences {left head : Symbol} {suffixes : List (List Symbol)}
    {p : Production} (hsplit : g.IsSplit left head suffixes p) :
    ⟨left, p.left, []⟩ ∈ g.factor.occurrences := by
  obtain ⟨name, hname⟩ := hsplit.exists_left_eq
  exact mem_occurrences_iff.mpr ⟨hname ▸ rfl, [head], hsplit.head_mem⟩

theorem FollowClosed.contains_left_of_isSplit (h : g.factor.FollowClosed first follow)
    {left head : Symbol} {suffixes : List (List Symbol)} {p : Production}
    (hsplit : g.IsSplit left head suffixes p) {s : Symbol}
    (hs : follow.contains left s = true) : follow.contains p.left s = true :=
  h.behind _ hsplit.mem_occurrences List.mem_cons_self s hs

theorem FollowClosed.of_factor (hfirst : g.factor.FirstClosed first)
    (h : g.factor.FollowClosed first follow) : g.FollowClosed first follow where
  inside o ho s hs hne := by
    rcases mem_occurrences_of_factor ho with hkept | ⟨head, suffixes, p, hsplit,
      ⟨hrest, hocc⟩ | hocc⟩
    · exact h.inside _ hkept s hs hne
    · exact h.inside _ hocc s
        (hsplit.mem_firstOf_left.mpr (hsplit.contains_of_mem_firstOf hfirst hrest hs)) hne
    · exact h.inside _ hocc s hs hne
  behind o ho hvanishes s hs := by
    rcases mem_occurrences_of_factor ho with hkept | ⟨head, suffixes, p, hsplit,
      ⟨hrest, hocc⟩ | hocc⟩
    · exact h.behind _ hkept hvanishes s hs
    · exact h.behind _ hocc
        (hsplit.mem_firstOf_left.mpr (hsplit.contains_of_mem_firstOf hfirst hrest hvanishes)) s hs
    · exact h.behind _ hocc hvanishes s (h.contains_left_of_isSplit hsplit hs)

/-! ### Closed sets before a pass, with sets for what is new -/

theorem lookup_map_of_mem {keys : List Symbol} (set : Symbol → List Symbol) {k : Symbol}
    (hk : k ∈ keys) : (keys.map fun k => (k, set k)).lookup k = some (set k) := by
  induction keys with
  | nil => cases hk
  | cons key keys ih =>
      rw [List.map_cons, List.lookup_cons]
      split
      · next heq => rw [eq_of_beq heq]
      · next hne => exact ih ((List.mem_cons.mp hk).resolve_left (by simpa using hne))

def withNew (g : Grammar) (sets : SymbolSets) (new : Symbol → List Symbol) : SymbolSets :=
  ⟨g.factor.nonTerminals.map fun k =>
    (k, if k ∈ g.symbols.named then sets.members k else new k)⟩

def unfactoredFirst (g : Grammar) (first : SymbolSets) : SymbolSets :=
  g.withNew first fun k =>
    (g.factor.rules.filter (·.1 = k)).flatMap fun r => firstOf first r.2

def unfactoredFollow (g : Grammar) (follow : SymbolSets) : SymbolSets :=
  g.withNew follow fun k =>
    (g.factorPass.2.filter (·.suffix = k)).flatMap fun split => follow.members split.left

theorem members_withNew {sets : SymbolSets} {new : Symbol → List Symbol} {k : Symbol}
    (hk : k ∈ g.factor.nonTerminals) :
    (g.withNew sets new).members k = if k ∈ g.symbols.named then sets.members k else new k := by
  rw [SymbolSets.members, SymbolSets.get?, withNew, lookup_map_of_mem _ hk, Option.getD_some]

theorem contains_withNew_of_mem {sets : SymbolSets} {new : Symbol → List Symbol} {k s : Symbol}
    (hk : k ∈ g.nonTerminals) :
    (g.withNew sets new).contains k s = true ↔ sets.contains k s = true := by
  rw [SymbolSets.contains_iff, SymbolSets.contains_iff,
    members_withNew (nonTerminals_subset_factor g hk), if_pos (mem_nonTerminals.mp hk).1]

theorem mem_firstOf_withNew {sets : SymbolSets} {new : Symbol → List Symbol} {α : List Symbol}
    (hα : ∀ s ∈ α, s = .epsilon ∨ s ∈ g.symbols.named) {s : Symbol} :
    s ∈ firstOf (g.withNew sets new) α ↔ s ∈ firstOf sets α :=
  mem_firstOf_congr_of_named (fun _ hA _ => contains_withNew_of_mem hA) hα

section

variable (hg : g.WellFormed) {left head : Symbol} {suffixes : List (List Symbol)} {p : Production}
  (hsplit : g.IsSplit left head suffixes p)
include hg hsplit

theorem contains_withNew_of_isSplit {sets : SymbolSets} {new : Symbol → List Symbol} {s : Symbol} :
    (g.withNew sets new).contains p.left s = true ↔ s ∈ new p.left := by
  rw [SymbolSets.contains_iff, members_withNew (hg.left_mem_factor hsplit.mem),
    if_neg (hg.left_notMem_of_isSplit hsplit)]

theorem contains_unfactoredFirst_of_isSplit {s : Symbol} :
    (g.unfactoredFirst first).contains p.left s = true ↔
      ∃ suffix ∈ suffixes, s ∈ firstOf first suffix := by
  rw [unfactoredFirst, contains_withNew_of_isSplit hg hsplit, List.mem_flatMap]
  constructor
  · rintro ⟨⟨A, a⟩, hrule, hs⟩
    obtain ⟨hrule, hA⟩ := List.mem_filter.mp hrule
    obtain rfl : A = p.left := by simpa using hA
    have ha := hg.factor.mem_alternatives_of_rule hsplit.mem hrule
    rw [hsplit.alternatives] at ha
    obtain ⟨suffix, hsuffix, rfl⟩ := List.mem_map.mp ha
    exact ⟨suffix, hsuffix, firstOf_orEpsilon first suffix ▸ hs⟩
  · rintro ⟨suffix, hsuffix, hs⟩
    exact ⟨_, List.mem_filter.mpr ⟨hsplit.suffix_mem hsuffix, by simp⟩,
      (firstOf_orEpsilon first suffix).symm ▸ hs⟩

theorem contains_unfactoredFollow_of_isSplit {s : Symbol} :
    (g.unfactoredFollow follow).contains p.left s = true ↔ follow.contains left s = true := by
  obtain ⟨split, hmem, hleft, -, hsuffix⟩ := hg.exists_split hsplit
  rw [unfactoredFollow, contains_withNew_of_isSplit hg hsplit, List.mem_flatMap,
    SymbolSets.contains_iff]
  constructor
  · rintro ⟨split', hmem', hs⟩
    obtain ⟨hmem', hsuffix'⟩ := List.mem_filter.mp hmem'
    have heq := hg.split_unique hmem' hmem (by simpa [hsuffix] using hsuffix')
    rwa [heq, hleft] at hs
  · intro hs
    exact ⟨split, List.mem_filter.mpr ⟨hmem, by simpa using hsuffix⟩, hleft.symm ▸ hs⟩

/-- In front of a new non-terminal a symbol is followed by what its suffixes can begin with. -/
theorem mem_firstOf_left_unfactoredFirst {s : Symbol} :
    s ∈ firstOf (g.unfactoredFirst first) [p.left] ↔
      ∃ suffix ∈ suffixes, s ∈ firstOf first suffix := by
  rw [hsplit.mem_firstOf_left, contains_unfactoredFirst_of_isSplit hg hsplit]

end

theorem FirstClosed.unfactored (hg : g.WellFormed) (h : g.FirstClosed first) :
    g.factor.FirstClosed (g.unfactoredFirst first) := by
  intro left a hrule s hs
  rcases mem_rules_factor hrule with hold | ⟨head, suffixes, p, hsplit, rfl⟩ |
    ⟨old, head, suffixes, p, hsplit, rfl, ha⟩
  · rw [unfactoredFirst, contains_withNew_of_mem (hg.left_mem_of_rule hold)]
    exact h left a hold s ((mem_firstOf_withNew (hg.mem_named _ hold)).mp hs)
  · obtain ⟨suffix₀, hsuffix₀⟩ := List.exists_mem_of_ne_nil _ hsplit.suffixes_ne_nil
    have hleft := hg.left_mem_of_rule (hsplit.rule_mem suffix₀ hsuffix₀)
    have hhead : ∀ t, t ∈ firstOf (g.unfactoredFirst first) [head] ↔ t ∈ firstOf first [head] :=
      fun t => mem_firstOf_withNew fun x hx =>
        .inr (List.mem_singleton.mp hx ▸ (hg.mem_named_of_isSplit hsplit).1)
    rw [unfactoredFirst, contains_withNew_of_mem hleft]
    rw [← List.singleton_append, mem_firstOf_append, hhead, hhead,
      mem_firstOf_left_unfactoredFirst hg hsplit] at hs
    rcases hs with hs | ⟨hvanishes, suffix, hsuffix, hs⟩
    · exact h left _ (hsplit.rule_mem suffix₀ hsuffix₀) s
        (mem_firstOf_append (α := [head]).mpr (.inl hs))
    · exact h left _ (hsplit.rule_mem suffix hsuffix) s
        (mem_firstOf_append (α := [head]).mpr (.inr ⟨hvanishes, hs⟩))
  · rw [hsplit.alternatives] at ha
    obtain ⟨suffix, hsuffix, rfl⟩ := List.mem_map.mp ha
    rw [firstOf_orEpsilon] at hs
    exact (contains_unfactoredFirst_of_isSplit hg hsplit).mpr ⟨suffix, hsuffix,
      (mem_firstOf_withNew ((hg.mem_named_of_isSplit hsplit).2 suffix hsuffix)).mp hs⟩

/-- A new occurrence is an old one, or the head of a split, or its new non-terminal, or stands in a
suffix. -/
theorem mem_occurrences_factor {o : Occurrence} (ho : o ∈ g.factor.occurrences) :
    o ∈ g.occurrences ∨ ∃ old head suffixes p, g.IsSplit old head suffixes p ∧
      ((o.left = old ∧ o.symbol = head ∧ o.rest = [p.left] ∧
          ∀ suffix ∈ suffixes, ⟨old, head, suffix⟩ ∈ g.occurrences) ∨
        (o.left = old ∧ o.symbol = p.left ∧ o.rest = []) ∨
        (o.left = p.left ∧ ⟨old, o.symbol, o.rest⟩ ∈ g.occurrences)) := by
  obtain ⟨hsymbol, before, hrule⟩ := mem_occurrences_iff.mp ho
  rcases mem_rules_factor hrule with hold | ⟨head, suffixes, p, hsplit, heq⟩ |
    ⟨old, head, suffixes, p, hsplit, hleft, ha⟩
  · exact .inl (mem_occurrences_iff.mpr ⟨hsymbol, before, hold⟩)
  · refine .inr ⟨o.left, head, suffixes, p, hsplit, ?_⟩
    match before, heq with
    | [], heq =>
        simp only [List.nil_append, List.cons.injEq] at heq
        refine .inl ⟨rfl, heq.1, heq.2, fun suffix hsuffix => mem_occurrences_iff.mpr
          ⟨heq.1 ▸ hsymbol, [], hsplit.rule_mem suffix hsuffix⟩⟩
    | [_], heq =>
        simp only [List.cons_append, List.nil_append, List.cons.injEq] at heq
        exact .inr (.inl ⟨rfl, heq.2.1, heq.2.2⟩)
    | _ :: _ :: before, heq => simp at heq
  · refine .inr ⟨old, head, suffixes, p, hsplit, .inr (.inr ⟨hleft.symm, ?_⟩)⟩
    rw [hsplit.alternatives] at ha
    obtain ⟨suffix, hsuffix, heq⟩ := List.mem_map.mp ha
    cases suffix with
    | nil =>
        have hmem : o.symbol ∈ Alternative.orEpsilon [] := heq ▸ by simp
        rw [List.mem_singleton.mp hmem] at hsymbol
        cases hsymbol
    | cons x suffix =>
        refine mem_occurrences_iff.mpr ⟨hsymbol, head :: before, ?_⟩
        rw [List.cons_append, ← heq]
        exact hsplit.rule_mem _ hsuffix

theorem WellFormed.mem_of_mem_occurrences (hg : g.WellFormed) {o : Occurrence}
    (ho : o ∈ g.occurrences) : o.left ∈ g.nonTerminals ∧ o.symbol ∈ g.nonTerminals ∧
      ∀ s ∈ o.rest, s = .epsilon ∨ s ∈ g.symbols.named := by
  obtain ⟨hsymbol, before, hrule⟩ := mem_occurrences_iff.mp ho
  have hnamed := hg.mem_named _ hrule
  refine ⟨hg.left_mem_of_rule hrule, mem_nonTerminals.mpr ⟨?_, hsymbol⟩, fun s hs => ?_⟩
  · refine (hnamed o.symbol (by simp)).resolve_left fun heq => ?_
    rw [heq] at hsymbol
    cases hsymbol
  · exact hnamed s (List.mem_append_right _ (List.mem_cons_of_mem _ hs))

theorem FollowClosed.unfactored (hg : g.WellFormed) (h : g.FollowClosed first follow) :
    g.factor.FollowClosed (g.unfactoredFirst first) (g.unfactoredFollow follow) where
  inside o ho s hs hne := by
    rcases mem_occurrences_factor ho with hold | ⟨old, head, suffixes, p, hsplit,
      ⟨hleft, hsymbol, hrest, hocc⟩ | ⟨hleft, hsymbol, hrest⟩ | ⟨hleft, hocc⟩⟩
    · obtain ⟨-, hmem, hnamed⟩ := hg.mem_of_mem_occurrences hold
      exact (contains_withNew_of_mem hmem).mpr
        (h.inside o hold s ((mem_firstOf_withNew hnamed).mp hs) hne)
    · rw [hrest, mem_firstOf_left_unfactoredFirst hg hsplit] at hs
      obtain ⟨suffix, hsuffix, hs⟩ := hs
      obtain ⟨-, hmem, -⟩ := hg.mem_of_mem_occurrences (hocc suffix hsuffix)
      rw [hsymbol]
      exact (contains_withNew_of_mem hmem).mpr (h.inside _ (hocc suffix hsuffix) s hs hne)
    · rw [hrest, firstOf_nil, List.mem_singleton] at hs
      exact absurd hs hne
    · obtain ⟨-, hmem, hnamed⟩ := hg.mem_of_mem_occurrences hocc
      exact (contains_withNew_of_mem hmem).mpr
        (h.inside _ hocc s ((mem_firstOf_withNew hnamed).mp hs) hne)
  behind o ho hvanishes s hs := by
    rcases mem_occurrences_factor ho with hold | ⟨old, head, suffixes, p, hsplit,
      ⟨hleft, hsymbol, hrest, hocc⟩ | ⟨hleft, hsymbol, hrest⟩ | ⟨hleft, hocc⟩⟩
    · obtain ⟨hleft, hmem, hnamed⟩ := hg.mem_of_mem_occurrences hold
      exact (contains_withNew_of_mem hmem).mpr (h.behind o hold
        ((mem_firstOf_withNew hnamed).mp hvanishes) s ((contains_withNew_of_mem hleft).mp hs))
    · rw [hrest, mem_firstOf_left_unfactoredFirst hg hsplit] at hvanishes
      obtain ⟨suffix, hsuffix, hvanishes⟩ := hvanishes
      obtain ⟨hold, hmem, -⟩ := hg.mem_of_mem_occurrences (hocc suffix hsuffix)
      rw [hleft] at hs
      rw [hsymbol]
      exact (contains_withNew_of_mem hmem).mpr (h.behind _ (hocc suffix hsuffix) hvanishes s
        ((contains_withNew_of_mem hold).mp hs))
    · obtain ⟨suffix, hsuffix⟩ := List.exists_mem_of_ne_nil _ hsplit.suffixes_ne_nil
      have hold := hg.left_mem_of_rule (hsplit.rule_mem suffix hsuffix)
      rw [hleft] at hs
      rw [hsymbol]
      exact (contains_unfactoredFollow_of_isSplit hg hsplit).mpr
        ((contains_withNew_of_mem hold).mp hs)
    · obtain ⟨-, hmem, hnamed⟩ := hg.mem_of_mem_occurrences hocc
      rw [hleft] at hs
      exact (contains_withNew_of_mem hmem).mpr (h.behind _ hocc
        ((mem_firstOf_withNew hnamed).mp hvanishes) s
        ((contains_unfactoredFollow_of_isSplit hg hsplit).mp hs))

/-! ### The sets before and after a pass -/

structure Exact (g : Grammar) (first follow : SymbolSets) : Prop where
  firstSound : g.FirstSound first
  firstClosed : g.FirstClosed first
  followSound : g.FollowSound follow
  followClosed : g.FollowClosed first follow
  start : ∀ start, g.start? = some start → follow.contains start .endMarker = true

theorem WellFormed.exists_exact (hg : g.WellFormed) (hv : g.validate = .ok ()) :
    ∃ first follow, g.firstSets = .ok first ∧ g.followSets first.value = .ok follow ∧
      g.Exact first.value follow.value := by
  obtain ⟨start, hstart⟩ := exists_start_of_validate hv
  have hsound := (g.firstSound_ofKeys g.nonTerminals).firstFrom hg
  refine ⟨_, _, firstSets_of_validate hv, followSets_of_validate hv hstart _, hsound,
    g.firstClosed_firstFrom _, followSound_followFrom hg hsound hstart,
    g.followClosed_followFrom _ _, endMarker_mem_followFrom _ hstart⟩

namespace Exact

variable {first' follow' : SymbolSets}

theorem contains_first (h : g.Exact first follow) (hclosed : g.FirstClosed first') {A s : Symbol}
    (hA : A ∈ g.nonTerminals) (hs : first.contains A s = true) : first'.contains A s = true := by
  obtain ⟨name, rfl⟩ := exists_eq_of_mem_nonTerminals hA
  exact mem_firstOf_singleton.mp (hclosed.mem_firstOf_of_canBegin (h.firstSound _ s hs))

theorem contains_follow (h : g.Exact first follow) (hfirst : g.FirstClosed first')
    (hclosed : g.FollowClosed first' follow')
    (hstart : ∀ start, g.start? = some start → follow'.contains start .endMarker = true)
    {A s : Symbol} (hA : A ∈ g.nonTerminals) (hs : follow.contains A s = true) :
    follow'.contains A s = true := by
  obtain ⟨name, rfl⟩ := exists_eq_of_mem_nonTerminals hA
  exact hclosed.contains_of_canFollow hfirst hstart (h.followSound _ s hs)

end Exact

/-- What a pass does to the FIRST and FOLLOW sets: nothing to the old ones, and a new non-terminal
gets the FIRST of its suffixes and the FOLLOW of the left side that it was split off from. -/
structure FactorsSets (g : Grammar) (first follow first' follow' : SymbolSets) : Prop where
  first_old : ∀ A ∈ g.nonTerminals, ∀ s, first'.contains A s = first.contains A s
  follow_old : ∀ A ∈ g.nonTerminals, ∀ s, follow'.contains A s = follow.contains A s
  exists_split : ∀ A ∈ g.factor.nonTerminals, A ∉ g.nonTerminals →
    ∃ split ∈ g.factorPass.2, split.suffix = A
  suffix_new : ∀ split ∈ g.factorPass.2, split.suffix ∉ g.nonTerminals ∧
    (split.left, [split.head, split.suffix]) ∈ g.factor.rules
  first_new : ∀ split ∈ g.factorPass.2, ∀ s, first'.contains split.suffix s = true ↔
    ∃ suffix, (split.left, split.head :: suffix) ∈ g.rules ∧ s ∈ firstOf first suffix
  follow_new : ∀ split ∈ g.factorPass.2, ∀ s,
    follow'.contains split.suffix s = follow.contains split.left s

namespace Exact

variable {first' follow' : SymbolSets} (hg : g.WellFormed) (h : g.Exact first follow)
  (h' : g.factor.Exact first' follow')
include hg h h'

theorem first_factor {A : Symbol} (hA : A ∈ g.nonTerminals) (s : Symbol) :
    first'.contains A s = first.contains A s := by
  rw [Bool.eq_iff_iff]
  constructor
  · intro hs
    exact (contains_withNew_of_mem hA).mp (h'.contains_first (h.firstClosed.unfactored hg)
      (nonTerminals_subset_factor g hA) hs)
  · exact h.contains_first h'.firstClosed.of_factor hA

theorem follow_factor {A : Symbol} (hA : A ∈ g.nonTerminals) (s : Symbol) :
    follow'.contains A s = follow.contains A s := by
  rw [Bool.eq_iff_iff]
  constructor
  · intro hs
    refine (contains_withNew_of_mem hA).mp (h'.contains_follow (h.firstClosed.unfactored hg)
      (h.followClosed.unfactored hg) (fun start hstart => ?_) (nonTerminals_subset_factor g hA) hs)
    exact (contains_withNew_of_mem (hg.start_mem start hstart)).mpr (h.start start hstart)
  · exact h.contains_follow h'.firstClosed.of_factor
      (h'.followClosed.of_factor h'.firstClosed) h'.start hA

theorem first_new {split : Split} (hsplit : split ∈ g.factorPass.2) (s : Symbol) :
    first'.contains split.suffix s = true ↔
      ∃ suffix, (split.left, split.head :: suffix) ∈ g.rules ∧ s ∈ firstOf first suffix := by
  obtain ⟨suffixes, p, his, hp, hrules⟩ := hg.exists_isSplit hsplit
  rw [← hp]
  constructor
  · intro hs
    obtain ⟨suffix, hsuffix, hs⟩ := (contains_unfactoredFirst_of_isSplit hg his).mp
      (h'.contains_first (h.firstClosed.unfactored hg) (hg.left_mem_factor his.mem) hs)
    exact ⟨suffix, (hrules suffix).mpr hsuffix, hs⟩
  · rintro ⟨suffix, hrule, hs⟩
    have hend : .endMarker ∉ suffix := fun hmem =>
      hg.endMarker_notMem hrule (List.mem_cons_of_mem _ hmem)
    exact his.contains_of_mem_firstOf h'.firstClosed ((hrules suffix).mp hrule)
      (h'.firstClosed.of_factor.mem_firstOf_of_canBegin (h.firstSound.mem_firstOf hend hs))

theorem follow_new {split : Split} (hsplit : split ∈ g.factorPass.2) (s : Symbol) :
    follow'.contains split.suffix s = follow.contains split.left s := by
  obtain ⟨suffixes, p, his, hp, -⟩ := hg.exists_isSplit hsplit
  obtain ⟨suffix, hsuffix⟩ := List.exists_mem_of_ne_nil _ his.suffixes_ne_nil
  have hleft := hg.left_mem_of_rule (his.rule_mem suffix hsuffix)
  rw [Bool.eq_iff_iff, ← hp]
  constructor
  · intro hs
    refine (contains_unfactoredFollow_of_isSplit hg his).mp
      (h'.contains_follow (h.firstClosed.unfactored hg) (h.followClosed.unfactored hg)
        (fun start hstart => ?_) (hg.left_mem_factor his.mem) hs)
    exact (contains_withNew_of_mem (hg.start_mem start hstart)).mpr (h.start start hstart)
  · intro hs
    rw [← follow_factor hg h h' hleft] at hs
    exact h'.followClosed.contains_left_of_isSplit his hs

theorem factorsSets : g.FactorsSets first follow first' follow' where
  first_old _ hA := first_factor hg h h' hA
  follow_old _ hA := follow_factor hg h h' hA
  exists_split _ hA hnew := exists_split_of_notMem hA hnew
  suffix_new split hsplit := by
    obtain ⟨suffixes, p, his, hp, -⟩ := hg.exists_isSplit hsplit
    rw [← hp]
    exact ⟨fun hmem => hg.left_notMem_of_isSplit his (mem_nonTerminals.mp hmem).1, his.head_mem⟩
  first_new _ hsplit := first_new hg h h' hsplit
  follow_new _ hsplit := follow_new hg h h' hsplit

end Exact

/-- However often a grammar has been factored since it was read, if it is valid, one further pass
changes none of its FIRST and FOLLOW sets. -/
theorem factorsSets_iterate_factor (lexing : Lexing) (text : String) (n : ℕ)
    (hv : (Grammar.factor^[n] (load lexing text).1).validate = .ok ()) :
    let g := Grammar.factor^[n] (load lexing text).1
    ∃ first follow first' follow', g.firstSets = .ok first ∧
      g.followSets first.value = .ok follow ∧ g.factor.firstSets = .ok first' ∧
      g.factor.followSets first'.value = .ok follow' ∧
      g.FactorsSets first.value follow.value first'.value follow'.value := by
  intro g
  have hg : g.WellFormed := (wellFormed_load lexing text).iterate_factor n
  have hv' : g.factor.validate = .ok () := by
    obtain ⟨hstart, hcomplete⟩ := validate_eq_ok_iff.mp hv
    exact validate_eq_ok_iff.mpr ⟨hstart, hcomplete.factor⟩
  obtain ⟨first, follow, hfirst, hfollow, h⟩ := hg.exists_exact hv
  obtain ⟨first', follow', hfirst', hfollow', h'⟩ := hg.factor.exists_exact hv'
  exact ⟨first, follow, first', follow', hfirst, hfollow, hfirst', hfollow', h.factorsSets hg h'⟩

/-- One pass has left the suffixes `C d` and `C`, and the next one splits `C` off, which can
vanish. -/
theorem factorsSets_iterate_factor_vanishing :
    (Grammar.factor^[1]
      (load .compact "S -> a C d | a C | a b\nC -> c C | ε").1).validate = .ok () ∧
    let g := Grammar.factor^[1] (load .compact "S -> a C d | a C | a b\nC -> c C | ε").1
    ∃ first follow first' follow', g.firstSets = .ok first ∧
      g.followSets first.value = .ok follow ∧ g.factor.firstSets = .ok first' ∧
      g.factor.followSets first'.value = .ok follow' ∧
      g.FactorsSets first.value follow.value first'.value follow'.value := by
  have hv : (Grammar.factor^[1]
      (load .compact "S -> a C d | a C | a b\nC -> c C | ε").1).validate = .ok () := by cbv
  exact ⟨hv, factorsSets_iterate_factor _ _ _ hv⟩

end Grammar

end Predictive
