import Predictive.Grammar.Group
import Predictive.Saturation

/-!
# Left factoring

One pass of left factoring looks at every production by itself. Its alternatives are grouped by the
symbol that they begin with, in the order of the first members; an empty word is always on its own.
A group of two or more alternatives `c α`, `c β`, … is replaced by the one alternative `c F` with a
new non-terminal `F`, and `F` gets the production `α | β | …`, placed directly after the production
that it came from. Suffixes are not factored again in the same pass.

`overlap` is the greatest length of a prefix that two alternatives of one production share. A pass
that splits a group makes it smaller (`overlap_factorPass_lt`), because the suffixes share one
symbol less and all other alternatives of the pass share nothing. So repeated passes come to an
end.
-/

namespace Predictive

/-- A group of alternatives that a pass has split off: the production it was part of, the symbol its
members begin with, their number, and the non-terminal of their suffixes. -/
structure Split where
  left : Symbol
  head : Symbol
  count : Nat
  suffix : Symbol

/-- What becomes of the groups of one production. -/
structure FactoredGroups where
  symbols : SymbolTable
  alternatives : List Alternative
  productions : List Production
  splits : List Split

structure FactoredProductions where
  symbols : SymbolTable
  productions : List Production
  splits : List Split

def factorGroups (left : Symbol) (symbols : SymbolTable) : List Group → FactoredGroups
  | [] => ⟨symbols, [], [], []⟩
  | .single a :: rest =>
    let r := factorGroups left symbols rest
    { r with alternatives := a :: r.alternatives }
  | .shared s suffixes :: rest =>
    let new := symbols.fresh left.name
    let r := factorGroups left new.2 rest
    { r with
      alternatives := [s, new.1] :: r.alternatives
      productions := ⟨new.1, suffixes.map Alternative.orEpsilon⟩ :: r.productions
      splits := ⟨left, s, suffixes.length, new.1⟩ :: r.splits }

def factorProductions (symbols : SymbolTable) : List Production → FactoredProductions
  | [] => ⟨symbols, [], []⟩
  | p :: rest =>
    let f := factorGroups p.left symbols (Group.ofAlternatives p.alternatives)
    let r := factorProductions f.symbols rest
    ⟨r.symbols, ⟨p.left, f.alternatives⟩ :: f.productions ++ r.productions, f.splits ++ r.splits⟩

namespace Grammar

/-- One pass of left factoring, and the groups that it split off. -/
def factorPass (g : Grammar) : Grammar × List Split :=
  let r := factorProductions g.symbols g.productions
  ({ g with symbols := r.symbols, productions := r.productions }, r.splits)

def factor (g : Grammar) : Grammar := g.factorPass.1

end Grammar

/-- After a pass an alternative of an old left side begins like the group that it stands for. -/
theorem leading?_mem_factorGroups {left : Symbol} {symbols : SymbolTable} {groups : List Group}
    (hshared : ∀ s suffixes, Group.shared s suffixes ∈ groups → s ≠ .epsilon)
    {a : Alternative} (ha : a ∈ (factorGroups left symbols groups).alternatives) :
    ∃ g ∈ groups, Alternative.leading? a = g.leading? := by
  induction groups generalizing symbols with
  | nil => cases ha
  | cons g rest ih =>
      have hrest : ∀ s suffixes, Group.shared s suffixes ∈ rest → s ≠ .epsilon :=
        fun s suffixes hs => hshared s suffixes (List.mem_cons_of_mem _ hs)
      cases g with
      | single b =>
          rcases List.mem_cons.mp ha with rfl | ha
          · exact ⟨.single a, List.mem_cons_self, rfl⟩
          · obtain ⟨g, hg, hag⟩ := ih hrest ha
            exact ⟨g, List.mem_cons_of_mem _ hg, hag⟩
      | shared s suffixes =>
          rcases List.mem_cons.mp ha with rfl | ha
          · exact ⟨.shared s suffixes, List.mem_cons_self,
              Alternative.leading?_cons (hshared s suffixes List.mem_cons_self) _⟩
          · obtain ⟨g, hg, hag⟩ := ih hrest ha
            exact ⟨g, List.mem_cons_of_mem _ hg, hag⟩

/-- The alternatives of an old left side share nothing after a pass. -/
theorem overlap_alternatives_factorGroups (left : Symbol) (symbols : SymbolTable)
    {groups : List Group}
    (h : groups.Pairwise fun g h => g.leading? = none ∨ g.leading? ≠ h.leading?)
    (hshared : ∀ s suffixes, Group.shared s suffixes ∈ groups → s ≠ .epsilon) :
    Alternative.overlap (factorGroups left symbols groups).alternatives ≤ 0 := by
  rw [Alternative.overlap_le_iff]
  induction groups generalizing symbols with
  | nil => exact .nil
  | cons g rest ih =>
      obtain ⟨hg, hrest⟩ := List.pairwise_cons.mp h
      have hne : ∀ s suffixes, Group.shared s suffixes ∈ rest → s ≠ .epsilon :=
        fun s suffixes hs => hshared s suffixes (List.mem_cons_of_mem _ hs)
      cases g with
      | single a =>
          refine .cons (fun b hb => ?_) (ih symbols hrest hne)
          obtain ⟨g, hmem, hbg⟩ := leading?_mem_factorGroups hne hb
          exact Nat.le_of_eq (Alternative.sharedLength_eq_zero (hbg ▸ hg g hmem))
      | shared s suffixes =>
          refine .cons (fun b hb => ?_) (ih _ hrest hne)
          obtain ⟨g, hmem, hbg⟩ := leading?_mem_factorGroups hne hb
          have hs := hshared s suffixes List.mem_cons_self
          refine Nat.le_of_eq (Alternative.sharedLength_eq_zero ?_)
          rw [Alternative.leading?_cons hs, hbg]
          exact hg g hmem

/-- A new production has the suffixes of a group as its alternatives. -/
theorem mem_productions_factorGroups {left : Symbol} {symbols : SymbolTable} {groups : List Group}
    {p : Production} (h : p ∈ (factorGroups left symbols groups).productions) :
    ∃ s suffixes, Group.shared s suffixes ∈ groups ∧
      p.alternatives = suffixes.map Alternative.orEpsilon := by
  induction groups generalizing symbols with
  | nil => cases h
  | cons g rest ih =>
      cases g with
      | single b =>
          obtain ⟨s, suffixes, hs, hp⟩ := ih h
          exact ⟨s, suffixes, List.mem_cons_of_mem _ hs, hp⟩
      | shared s suffixes =>
          rcases List.mem_cons.mp h with rfl | h
          · exact ⟨s, suffixes, List.mem_cons_self, rfl⟩
          · obtain ⟨s', suffixes', hs, hp⟩ := ih h
            exact ⟨s', suffixes', List.mem_cons_of_mem _ hs, hp⟩

/-- The suffixes of a group share one symbol less than its members. -/
theorem overlap_suffixes_lt {alternatives : List Alternative} {s : Symbol}
    {suffixes : List (List Symbol)}
    (h : Group.shared s suffixes ∈ Group.ofAlternatives alternatives) :
    Alternative.overlap (suffixes.map Alternative.orEpsilon) <
      Alternative.overlap alternatives := by
  obtain ⟨hlen, hs⟩ := Group.two_le_of_shared_mem h
  have hmembers : (suffixes.map (s :: ·)).Pairwise
      fun a b => Alternative.sharedLength a b ≤ Alternative.overlap alternatives :=
    ((Alternative.overlap_le_iff _ _).mp (Nat.le_refl _)).sublist (Group.sublist_of_mem h)
  rw [List.pairwise_map] at hmembers
  have hsucc : suffixes.Pairwise fun a b =>
      Alternative.sharedLength a b + 1 ≤ Alternative.overlap alternatives := by
    refine hmembers.imp fun {a b} hab => ?_
    rwa [Alternative.sharedLength_cons_cons, if_pos ⟨rfl, hs⟩] at hab
  have hpos : 0 < Alternative.overlap alternatives := by
    match suffixes, hlen, hsucc with
    | a :: b :: _, _, hsucc =>
        have := (List.pairwise_cons.mp hsucc).1 b List.mem_cons_self
        omega
  have hle : Alternative.overlap (suffixes.map Alternative.orEpsilon) ≤
      Alternative.overlap alternatives - 1 := by
    rw [Alternative.overlap_le_iff, List.pairwise_map]
    refine hsucc.imp fun {a b} hab => ?_
    rw [Alternative.sharedLength_orEpsilon]
    omega
  omega

theorem splits_factorGroups_ne_nil {left : Symbol} {symbols : SymbolTable} {groups : List Group}
    (h : (factorGroups left symbols groups).splits ≠ []) :
    ∃ s suffixes, Group.shared s suffixes ∈ groups := by
  induction groups generalizing symbols with
  | nil => exact absurd rfl h
  | cons g rest ih =>
      cases g with
      | single b =>
          obtain ⟨s, suffixes, hs⟩ := ih h
          exact ⟨s, suffixes, List.mem_cons_of_mem _ hs⟩
      | shared s suffixes => exact ⟨s, suffixes, List.mem_cons_self⟩

/-- Every production of a pass shares less than the production that it came from, or nothing. -/
theorem overlap_mem_factorProductions {symbols : SymbolTable} {productions : List Production}
    {p : Production} (h : p ∈ (factorProductions symbols productions).productions) :
    ∃ q ∈ productions, Alternative.overlap p.alternatives ≤
      Alternative.overlap q.alternatives - 1 := by
  induction productions generalizing symbols with
  | nil => cases h
  | cons q rest ih =>
      have hshared : ∀ s suffixes, Group.shared s suffixes ∈ Group.ofAlternatives q.alternatives →
          s ≠ .epsilon := fun _ _ hs => (Group.two_le_of_shared_mem hs).2
      rcases List.mem_cons.mp h with rfl | h
      · refine ⟨q, List.mem_cons_self, ?_⟩
        have := overlap_alternatives_factorGroups q.left symbols
          (Group.pairwise_leading? q.alternatives) hshared
        dsimp only
        omega
      · rcases List.mem_append.mp h with h | h
        · obtain ⟨s, suffixes, hs, hp⟩ := mem_productions_factorGroups h
          refine ⟨q, List.mem_cons_self, ?_⟩
          have := overlap_suffixes_lt hs
          rw [hp]
          omega
        · obtain ⟨q', hq', hp⟩ := ih h
          exact ⟨q', List.mem_cons_of_mem _ hq', hp⟩

/-- A pass that splits a group finds alternatives that share a symbol. -/
theorem overlap_pos_of_splits_ne_nil {symbols : SymbolTable} {productions : List Production}
    (h : (factorProductions symbols productions).splits ≠ []) :
    ∃ q ∈ productions, 0 < Alternative.overlap q.alternatives := by
  induction productions generalizing symbols with
  | nil => exact absurd rfl h
  | cons q rest ih =>
      by_cases hq : (factorGroups q.left symbols (Group.ofAlternatives q.alternatives)).splits = []
      · rw [factorProductions, hq] at h
        obtain ⟨q', hq', hpos⟩ := ih h
        exact ⟨q', List.mem_cons_of_mem _ hq', hpos⟩
      · obtain ⟨s, suffixes, hs⟩ := splits_factorGroups_ne_nil hq
        exact ⟨q, List.mem_cons_self, Nat.lt_of_le_of_lt (Nat.zero_le _) (overlap_suffixes_lt hs)⟩

namespace Grammar

theorem overlap_factorPass_le (g : Grammar) : g.factorPass.1.overlap ≤ g.overlap - 1 := by
  rw [overlap_le_iff]
  intro p hp
  obtain ⟨q, hq, hle⟩ := overlap_mem_factorProductions hp
  have := (g.overlap_le_iff _).mp (Nat.le_refl _) q hq
  omega

theorem overlap_factorPass_lt (g : Grammar) (h : g.factorPass.2 ≠ []) :
    g.factorPass.1.overlap < g.overlap := by
  obtain ⟨q, hq, hpos⟩ := overlap_pos_of_splits_ne_nil h
  have hq' := (g.overlap_le_iff _).mp (Nat.le_refl _) q hq
  have := g.overlap_factorPass_le
  omega

/-- Repeats the pass until it splits nothing. -/
def factorFully (g : Grammar) : Stable Grammar :=
  untilStable (fun g => let r := g.factorPass; (r.1, !r.2.isEmpty)) (fun _ => True) overlap
    (fun _ _ => trivial)
    (fun g _ h => g.overlap_factorPass_lt (by simpa using h)) g trivial

/-- Repeats the pass up to `limit` times, but not after a pass that changed nothing. -/
def factorUpTo (limit : Nat) (g : Grammar) : Grammar :=
  match limit with
  | 0 => g
  | limit + 1 =>
    let next := g.factor
    if next = g then g else factorUpTo limit next

end Grammar

end Predictive
