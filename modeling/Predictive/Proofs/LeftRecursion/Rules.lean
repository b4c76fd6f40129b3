import Predictive.LeftRecursion.Elimination
import Predictive.Proofs.Grammar.WellFormed

/-!
# The rules after an elimination of left recursion

A production either stays as it is or is removed in favour of one that ends in a new tail and the
production of that tail. `Removes p tail` says the latter. A production of the result is one that
stayed or one of the two (`mem_eliminateProductions`), and every production stayed or was removed
(`mem_or_removes`).

The tails are new symbols of the table, in the order of the removals, so a tail belongs to one
production only (`WellFormed.eq_of_removes`). An elimination keeps a grammar well-formed
(`WellFormed.eliminated`).
-/

namespace Predictive

namespace Production

theorem mem_recursive {p : Production} {α : List Symbol} :
    α ∈ p.recursive ↔ p.left :: α ∈ p.alternatives := by
  rw [recursive, List.mem_map]
  constructor
  · rintro ⟨a, ha, rfl⟩
    obtain ⟨hmem, hhead⟩ := List.mem_filter.mp ha
    obtain ⟨α, rfl⟩ := List.head?_eq_some_iff.mp (by simpa using hhead)
    exact hmem
  · intro h
    exact ⟨p.left :: α, List.mem_filter.mpr ⟨h, by simp⟩, rfl⟩

theorem head?_ne_of_recursive_eq_nil {p : Production} (hp : p.recursive = []) {a : Alternative}
    (ha : a ∈ p.alternatives) : List.head? a ≠ some p.left := by
  intro hhead
  obtain ⟨α, rfl⟩ := List.head?_eq_some_iff.mp hhead
  have hα : α ∈ p.recursive := mem_recursive.mpr ha
  rw [hp] at hα
  cases hα

theorem head?_ne_of_mem_others {p : Production} {a : Alternative} (h : a ∈ p.others) :
    List.head? a ≠ some p.left := by
  simpa using (List.mem_filter.mp h).2

theorem mem_of_mem_others {p : Production} {a : Alternative} (h : a ∈ p.others) :
    a ∈ p.alternatives :=
  (List.mem_filter.mp h).1

theorem mem_others_or_recursive {p : Production} {a : Alternative} (h : a ∈ p.alternatives) :
    a ∈ p.others ∨ ∃ α ∈ p.recursive, a = p.left :: α := by
  by_cases hhead : List.head? a = some p.left
  · obtain ⟨α, rfl⟩ := List.head?_eq_some_iff.mp hhead
    exact .inr ⟨α, mem_recursive.mpr h, rfl⟩
  · exact .inl (List.mem_filter.mpr ⟨h, by simpa using hhead⟩)

theorem mem_tailProduction {p : Production} {tail : Symbol} {a : Alternative} :
    a ∈ (p.tailProduction tail).alternatives ↔
      (∃ α ∈ p.recursive, a = Alternative.ofSequence (α ++ [tail])) ∨ a = [.epsilon] := by
  simp only [tailProduction, List.mem_append, List.mem_map, List.mem_singleton, eq_comm]

theorem mem_withTail {p : Production} {tail : Symbol} {a : Alternative} :
    a ∈ (p.withTail tail).alternatives ↔
      ∃ b ∈ p.others, a = Alternative.ofSequence (b ++ [tail]) := by
  simp only [withTail, List.mem_map, eq_comm]

end Production

namespace Eliminated

structure Removes (e : Eliminated) (p : Production) (tail : Symbol) : Prop where
  recursive_ne_nil : p.recursive ≠ []
  removal_mem : ⟨p.left, p.recursive.length, tail⟩ ∈ e.removals
  withTail_mem : p.withTail tail ∈ e.productions
  tailProduction_mem : p.tailProduction tail ∈ e.productions

theorem Removes.mono {e e' : Eliminated} {p : Production} {tail : Symbol} (h : e.Removes p tail)
    (hproductions : e.productions ⊆ e'.productions) (hremovals : e.removals ⊆ e'.removals) :
    e'.Removes p tail :=
  ⟨h.recursive_ne_nil, hremovals h.removal_mem, hproductions h.withTail_mem,
    hproductions h.tailProduction_mem⟩

def tails (e : Eliminated) : List Symbol :=
  e.removals.map Removal.tail

theorem Removes.tail_mem {e : Eliminated} {p : Production} {tail : Symbol}
    (h : e.Removes p tail) : tail ∈ e.tails :=
  List.mem_map_of_mem (f := Removal.tail) h.removal_mem

end Eliminated

section Productions

variable (symbols : SymbolTable) (productions : List Production)

theorem eliminateProductions_cons_of_nil {p : Production} (h : p.recursive = []) :
    eliminateProductions symbols (p :: productions) =
      { eliminateProductions symbols productions with
        productions := p :: (eliminateProductions symbols productions).productions } := by
  rw [eliminateProductions, if_pos (by rw [h]; rfl)]

theorem eliminateProductions_cons_of_ne_nil {p : Production} (h : p.recursive ≠ []) :
    eliminateProductions symbols (p :: productions) =
      { eliminateProductions (symbols.fresh p.left.name).2 productions with
        productions := p.withTail (symbols.fresh p.left.name).1 ::
          p.tailProduction (symbols.fresh p.left.name).1 ::
          (eliminateProductions (symbols.fresh p.left.name).2 productions).productions
        removals := ⟨p.left, p.recursive.length, (symbols.fresh p.left.name).1⟩ ::
          (eliminateProductions (symbols.fresh p.left.name).2 productions).removals } := by
  rw [eliminateProductions, if_neg (by simpa using h)]

theorem named_eliminateProductions :
    (eliminateProductions symbols productions).symbols.named =
      symbols.named ++ (eliminateProductions symbols productions).tails := by
  induction productions generalizing symbols with
  | nil => simp [eliminateProductions, Eliminated.tails]
  | cons p rest ih =>
      by_cases h : p.recursive = []
      · rw [eliminateProductions_cons_of_nil symbols rest h]
        exact ih symbols
      · rw [eliminateProductions_cons_of_ne_nil symbols rest h]
        refine (ih _).trans ?_
        rw [SymbolTable.fresh, SymbolTable.push, List.append_assoc, List.singleton_append]
        rfl

theorem wellFormed_eliminateProductions (h : symbols.WellFormed) :
    (eliminateProductions symbols productions).symbols.WellFormed := by
  induction productions generalizing symbols with
  | nil => exact h
  | cons p rest ih =>
      by_cases hp : p.recursive = []
      · rw [eliminateProductions_cons_of_nil symbols rest hp]
        exact ih symbols h
      · rw [eliminateProductions_cons_of_ne_nil symbols rest hp]
        exact ih _ (h.fresh p.left.name)

/-- A tail is named after the left side that it is made for. -/
theorem exists_candidate_of_mem_tails {s : Symbol}
    (h : s ∈ (eliminateProductions symbols productions).tails) :
    ∃ p ∈ productions, ∃ n, s = .nonTerminal (SymbolTable.candidate p.left.name n) := by
  induction productions generalizing symbols with
  | nil => cases h
  | cons p rest ih =>
      by_cases hp : p.recursive = []
      · rw [eliminateProductions_cons_of_nil symbols rest hp] at h
        obtain ⟨q, hq, hname⟩ := ih symbols h
        exact ⟨q, List.mem_cons_of_mem _ hq, hname⟩
      · rw [eliminateProductions_cons_of_ne_nil symbols rest hp] at h
        rcases List.mem_cons.mp h with rfl | h
        · exact ⟨p, List.mem_cons_self, _, rfl⟩
        · obtain ⟨q, hq, hname⟩ := ih _ h
          exact ⟨q, List.mem_cons_of_mem _ hq, hname⟩

theorem exists_eq_of_mem_tails {s : Symbol}
    (h : s ∈ (eliminateProductions symbols productions).tails) : ∃ name, s = .nonTerminal name := by
  obtain ⟨p, -, n, hname⟩ := exists_candidate_of_mem_tails symbols productions h
  exact ⟨_, hname⟩

theorem perm_lefts_eliminateProductions :
    ((eliminateProductions symbols productions).productions.map Production.left).Perm
      (productions.map Production.left ++ (eliminateProductions symbols productions).tails) := by
  induction productions generalizing symbols with
  | nil => exact .refl _
  | cons p rest ih =>
      by_cases hp : p.recursive = []
      · rw [eliminateProductions_cons_of_nil symbols rest hp]
        exact (ih symbols).cons _
      · rw [eliminateProductions_cons_of_ne_nil symbols rest hp]
        refine .cons _ (((ih _).cons _).trans ?_)
        exact List.perm_middle.symm

theorem removes_cons {p : Production} (hp : p.recursive ≠ []) :
    (eliminateProductions symbols (p :: productions)).Removes p
      (symbols.fresh p.left.name).1 := by
  rw [eliminateProductions_cons_of_ne_nil symbols productions hp]
  exact ⟨hp, List.mem_cons_self, List.mem_cons_self, List.mem_cons_of_mem _ List.mem_cons_self⟩

theorem Eliminated.Removes.cons_of_nil {symbols : SymbolTable} {productions : List Production}
    {p q : Production} {tail : Symbol} (hq : q.recursive = [])
    (h : (eliminateProductions symbols productions).Removes p tail) :
    (eliminateProductions symbols (q :: productions)).Removes p tail := by
  rw [eliminateProductions_cons_of_nil symbols productions hq]
  exact h.mono (List.subset_cons_self _ _) (List.Subset.refl _)

theorem Eliminated.Removes.cons_of_ne_nil {symbols : SymbolTable} {productions : List Production}
    {p q : Production} {tail : Symbol} (hq : q.recursive ≠ [])
    (h : (eliminateProductions (symbols.fresh q.left.name).2 productions).Removes p tail) :
    (eliminateProductions symbols (q :: productions)).Removes p tail := by
  rw [eliminateProductions_cons_of_ne_nil symbols productions hq]
  exact h.mono (fun _ hp => List.mem_cons_of_mem _ (List.mem_cons_of_mem _ hp))
    (List.subset_cons_self _ _)

/-- A production of the result is an old one without recursive alternatives, or one of the two that
a removed one gives way to. -/
theorem mem_eliminateProductions {q : Production}
    (h : q ∈ (eliminateProductions symbols productions).productions) :
    q ∈ productions ∧ q.recursive = [] ∨ ∃ p ∈ productions, ∃ tail,
      (eliminateProductions symbols productions).Removes p tail ∧
        (q = p.withTail tail ∨ q = p.tailProduction tail) := by
  induction productions generalizing symbols with
  | nil => cases h
  | cons p rest ih =>
      by_cases hp : p.recursive = []
      · rw [eliminateProductions_cons_of_nil symbols rest hp] at h
        rcases List.mem_cons.mp h with rfl | h
        · exact .inl ⟨List.mem_cons_self, hp⟩
        · rcases ih _ h with ⟨hq, hnil⟩ | ⟨p', hp', tail, hremoves, hq⟩
          · exact .inl ⟨List.mem_cons_of_mem _ hq, hnil⟩
          · exact .inr ⟨p', List.mem_cons_of_mem _ hp', tail, hremoves.cons_of_nil hp, hq⟩
      · have hremoved := removes_cons symbols rest hp
        rw [eliminateProductions_cons_of_ne_nil symbols rest hp] at h
        rcases List.mem_cons.mp h with rfl | h
        · exact .inr ⟨p, List.mem_cons_self, _, hremoved, .inl rfl⟩
        · rcases List.mem_cons.mp h with rfl | h
          · exact .inr ⟨p, List.mem_cons_self, _, hremoved, .inr rfl⟩
          · rcases ih _ h with ⟨hq, hnil⟩ | ⟨p', hp', tail, hremoves, hq⟩
            · exact .inl ⟨List.mem_cons_of_mem _ hq, hnil⟩
            · exact .inr ⟨p', List.mem_cons_of_mem _ hp', tail, hremoves.cons_of_ne_nil hp, hq⟩

theorem mem_or_removes {p : Production} (h : p ∈ productions) :
    p ∈ (eliminateProductions symbols productions).productions ∧ p.recursive = [] ∨
      ∃ tail, (eliminateProductions symbols productions).Removes p tail := by
  induction productions generalizing symbols with
  | nil => cases h
  | cons q rest ih =>
      by_cases hq : q.recursive = []
      · rcases List.mem_cons.mp h with rfl | h
        · rw [eliminateProductions_cons_of_nil symbols rest hq]
          exact .inl ⟨List.mem_cons_self, hq⟩
        · rcases ih symbols h with ⟨hp, hnil⟩ | ⟨tail, hremoves⟩
          · rw [eliminateProductions_cons_of_nil symbols rest hq]
            exact .inl ⟨List.mem_cons_of_mem _ hp, hnil⟩
          · exact .inr ⟨tail, hremoves.cons_of_nil hq⟩
      · rcases List.mem_cons.mp h with rfl | h
        · exact .inr ⟨_, removes_cons symbols rest hq⟩
        · rcases ih (symbols.fresh q.left.name).2 h with ⟨hp, hnil⟩ | ⟨tail, hremoves⟩
          · rw [eliminateProductions_cons_of_ne_nil symbols rest hq]
            exact .inl ⟨List.mem_cons_of_mem _ (List.mem_cons_of_mem _ hp), hnil⟩
          · exact .inr ⟨tail, hremoves.cons_of_ne_nil hq⟩

end Productions

namespace Grammar

/-- What an elimination puts in the place of the productions, cycle or not. -/
def elimination (g : Grammar) : Eliminated :=
  eliminateProductions g.symbols g.productionsInOrder

def eliminated (g : Grammar) : Grammar :=
  { g with symbols := g.elimination.symbols, productions := g.elimination.productions }

theorem eq_eliminated_of_eliminate {g r : Grammar} {removals : List Removal}
    (h : g.eliminate = .ok (r, removals)) : r = g.eliminated := by
  unfold eliminate at h
  split at h
  · cases h
  · cases h
    rfl

theorem indirectCycle?_of_eliminate {g r : Grammar} {removals : List Removal}
    (h : g.eliminate = .ok (r, removals)) : g.indirectCycle? = none := by
  unfold eliminate at h
  split at h
  · cases h
  · next hnone => exact hnone

theorem eliminate_eq_of_indirectCycle? {g : Grammar} (h : g.indirectCycle? = none) :
    g.eliminate = .ok (g.eliminated, g.elimination.removals) := by
  rw [eliminate, h]
  rfl

theorem lefts_productionsInOrder (g : Grammar) :
    g.productionsInOrder.map Production.left =
      g.nonTerminals.filter fun s => (g.production? s).isSome := by
  unfold productionsInOrder
  induction g.nonTerminals with
  | nil => rfl
  | cons s rest ih =>
      cases hs : g.production? s with
      | none =>
          rw [List.filterMap_cons_none hs, List.filter_cons_of_neg (by simp [hs])]
          exact ih
      | some p =>
          rw [List.filterMap_cons_some hs, List.filter_cons_of_pos (by simp [hs]), List.map_cons,
            left_of_production?_eq_some hs, ih]

namespace WellFormed

variable {g : Grammar}

theorem mem_productionsInOrder (h : g.WellFormed) {p : Production} :
    p ∈ g.productionsInOrder ↔ p ∈ g.productions := by
  rw [productionsInOrder, List.mem_filterMap]
  constructor
  · rintro ⟨s, -, hs⟩
    exact List.mem_of_find?_eq_some hs
  · exact fun hp => ⟨p.left, h.left_mem p hp, h.production?_left hp⟩

theorem nonTerminals_nodup (h : g.WellFormed) : g.nonTerminals.Nodup := by
  have heq : g.nonTerminals = g.symbols.named.filter Symbol.isNonTerminal := rfl
  rw [heq]
  exact h.symbols.named_nodup.filter _

theorem tails_nodup (h : g.WellFormed) :
    g.elimination.tails.Nodup ∧ ∀ s ∈ g.elimination.tails, s ∉ g.symbols.named := by
  have hnodup := (wellFormed_eliminateProductions g.symbols g.productionsInOrder
    h.symbols).named_nodup
  rw [named_eliminateProductions] at hnodup
  obtain ⟨-, htails, hdisjoint⟩ := List.nodup_append.mp hnodup
  exact ⟨htails, fun s hs hmem => hdisjoint s hmem s hs rfl⟩

theorem eq_of_removes (h : g.WellFormed) {p q : Production} (hp : p ∈ g.productions)
    (hq : q ∈ g.productions) {tail : Symbol} (hp' : g.elimination.Removes p tail)
    (hq' : g.elimination.Removes q tail) : p = q := by
  have heq := List.inj_on_of_nodup_map h.tails_nodup.1 hp'.removal_mem hq'.removal_mem rfl
  exact List.inj_on_of_nodup_map h.lefts_nodup hp hq (congrArg Removal.left heq)

end WellFormed

theorem named_eliminated (g : Grammar) :
    g.eliminated.symbols.named = g.symbols.named ++ g.elimination.tails :=
  named_eliminateProductions g.symbols g.productionsInOrder

def TailsEnter (g : Grammar) : Prop :=
  g.symbols.internAll g.elimination.tails = (g.eliminated.symbols, none)

theorem WellFormed.tailsEnter {g : Grammar} (h : g.WellFormed) : g.TailsEnter := by
  have heq : g.eliminated.symbols = ⟨g.symbols.named ++ g.elimination.tails⟩ :=
    congrArg SymbolTable.mk (named_eliminated g)
  have hwell := wellFormed_eliminateProductions g.symbols g.productionsInOrder h.symbols
  rw [TailsEnter, heq]
  exact SymbolTable.internAll_eq_of_wellFormed _ _ (heq ▸ hwell)

theorem nonTerminals_subset_eliminated (g : Grammar) :
    g.nonTerminals ⊆ g.eliminated.nonTerminals := by
  intro s hs
  rw [mem_nonTerminals] at hs ⊢
  rw [named_eliminated]
  exact ⟨List.mem_append_left _ hs.1, hs.2⟩

theorem left_mem_eliminated {g : Grammar} {p : Production}
    (hp : p ∈ g.eliminated.productions) : p.left ∈ g.eliminated.nonTerminals := by
  have hleft := (perm_lefts_eliminateProductions g.symbols g.productionsInOrder).subset
    (List.mem_map_of_mem (f := Production.left) hp)
  rcases List.mem_append.mp hleft with hleft | hleft
  · rw [lefts_productionsInOrder] at hleft
    exact nonTerminals_subset_eliminated g (List.mem_filter.mp hleft).1
  · obtain ⟨name, heq⟩ := exists_eq_of_mem_tails _ _ hleft
    rw [mem_nonTerminals, named_eliminated]
    exact ⟨List.mem_append_right _ hleft, heq ▸ rfl⟩

namespace WellFormed

variable {g : Grammar}

/-- A rule of the result is an old rule that does not begin with its left side, or it ends in a
tail, or it is the end of a tail. -/
theorem mem_rules_eliminated (h : g.WellFormed) {left : Symbol} {a : Alternative}
    (hr : (left, a) ∈ g.eliminated.rules) :
    (left, a) ∈ g.rules ∧ List.head? a ≠ some left ∨
      ∃ p ∈ g.productions, ∃ tail, g.elimination.Removes p tail ∧
        ((left = p.left ∧ ∃ b ∈ p.others, a = Alternative.ofSequence (b ++ [tail])) ∨
          (left = tail ∧ ∃ α ∈ p.recursive, a = Alternative.ofSequence (α ++ [tail])) ∨
          (left = tail ∧ a = [.epsilon])) := by
  obtain ⟨q, hq, rfl, ha⟩ := (mem_rules_iff _ _ _).mp hr
  rcases mem_eliminateProductions _ _ hq with ⟨hq, hnil⟩ | ⟨p, hp, tail, hremoves, rfl | rfl⟩
  · exact .inl ⟨(mem_rules_iff _ _ _).mpr ⟨q, h.mem_productionsInOrder.mp hq, rfl, ha⟩,
      Production.head?_ne_of_recursive_eq_nil hnil ha⟩
  · exact .inr ⟨p, h.mem_productionsInOrder.mp hp, tail, hremoves,
      .inl ⟨rfl, Production.mem_withTail.mp ha⟩⟩
  · refine .inr ⟨p, h.mem_productionsInOrder.mp hp, tail, hremoves, .inr ?_⟩
    exact (Production.mem_tailProduction.mp ha).imp (⟨rfl, ·⟩) (⟨rfl, ·⟩)

/-- An old rule is kept, if it does not begin with its left side, or its production is removed. -/
theorem mem_rules_of_eliminated (h : g.WellFormed) {left : Symbol} {a : Alternative}
    (hr : (left, a) ∈ g.rules) :
    (left, a) ∈ g.eliminated.rules ∧ List.head? a ≠ some left ∨
      ∃ p ∈ g.productions, p.left = left ∧ a ∈ p.alternatives ∧
        ∃ tail, g.elimination.Removes p tail := by
  obtain ⟨p, hp, rfl, ha⟩ := (mem_rules_iff _ _ _).mp hr
  rcases mem_or_removes g.symbols _ (h.mem_productionsInOrder.mpr hp) with ⟨hkept, hnil⟩ | hremoves
  · exact .inl ⟨(mem_rules_iff _ _ _).mpr ⟨p, hkept, rfl, ha⟩,
      Production.head?_ne_of_recursive_eq_nil hnil ha⟩
  · exact .inr ⟨p, hp, rfl, ha, hremoves⟩

theorem mem_named_of_removes (h : g.WellFormed) {p : Production} (hp : p ∈ g.productions)
    {tail : Symbol} (hremoves : g.elimination.Removes p tail) :
    tail ∉ g.symbols.named ∧
      (∀ b ∈ p.others, ∀ s ∈ b, s = .epsilon ∨ s ∈ g.symbols.named) ∧
      ∀ α ∈ p.recursive, ∀ s ∈ α, s = .epsilon ∨ s ∈ g.symbols.named := by
  have hrule : ∀ a ∈ p.alternatives, ∀ s ∈ a, s = .epsilon ∨ s ∈ g.symbols.named :=
    fun a ha => h.mem_named _ ((mem_rules_iff _ _ _).mpr ⟨p, hp, rfl, ha⟩)
  refine ⟨h.tails_nodup.2 _ hremoves.tail_mem, fun b hb => ?_, fun α hα s hs => ?_⟩
  · exact hrule b (Production.mem_of_mem_others hb)
  · exact hrule _ (Production.mem_recursive.mp hα) s (List.mem_cons_of_mem _ hs)

theorem lefts_nodup_eliminated (h : g.WellFormed) :
    (g.eliminated.productions.map Production.left).Nodup := by
  refine (perm_lefts_eliminateProductions g.symbols g.productionsInOrder).nodup_iff.mpr ?_
  rw [lefts_productionsInOrder]
  refine List.nodup_append.mpr ⟨h.nonTerminals_nodup.filter _, h.tails_nodup.1, ?_⟩
  rintro s hs t ht rfl
  exact h.tails_nodup.2 s ht (mem_nonTerminals.mp (List.mem_filter.mp hs).1).1

theorem eliminated (h : g.WellFormed) : g.eliminated.WellFormed where
  symbols := wellFormed_eliminateProductions g.symbols g.productionsInOrder h.symbols
  lefts_nodup := h.lefts_nodup_eliminated
  left_mem _ hp := left_mem_eliminated hp
  mem_named := by
    rintro ⟨left, a⟩ hr s hs
    rw [named_eliminated, List.mem_append]
    have htail : ∀ {α : List Symbol} {tail : Symbol}, tail ∈ g.elimination.tails →
        (∀ s ∈ α, s = .epsilon ∨ s ∈ g.symbols.named) →
        s ∈ Alternative.ofSequence (α ++ [tail]) →
        s = .epsilon ∨ s ∈ g.symbols.named ∨ s ∈ g.elimination.tails := by
      intro α tail htail hα hs
      rcases Alternative.mem_of_mem_ofSequence hs with hs | hs
      · exact .inl hs
      · rcases List.mem_append.mp hs with hs | hs
        · exact (hα s hs).imp_right .inl
        · exact .inr (.inr (List.mem_singleton.mp hs ▸ htail))
    rcases h.mem_rules_eliminated hr with ⟨hr, -⟩ | ⟨p, hp, tail, hremoves, ⟨-, b, hb, rfl⟩ |
      ⟨-, α, hα, rfl⟩ | ⟨-, rfl⟩⟩
    · exact (h.mem_named _ hr s hs).imp_right .inl
    · exact htail hremoves.tail_mem ((h.mem_named_of_removes hp hremoves).2.1 b hb) hs
    · exact htail hremoves.tail_mem ((h.mem_named_of_removes hp hremoves).2.2 α hα) hs
    · exact .inl (List.mem_singleton.mp hs)
  normal := by
    rintro ⟨left, a⟩ hr
    rcases h.mem_rules_eliminated hr with ⟨hr, -⟩ | ⟨p, hp, tail, hremoves, ⟨-, b, hb, rfl⟩ |
      ⟨-, α, hα, rfl⟩ | ⟨-, rfl⟩⟩
    · exact h.normal _ hr
    · exact Alternative.ofSequence_ofSequence _
    · exact Alternative.ofSequence_ofSequence _
    · rfl
  start_mem s hs := nonTerminals_subset_eliminated g (h.start_mem s hs)

end WellFormed

end Grammar

end Predictive
