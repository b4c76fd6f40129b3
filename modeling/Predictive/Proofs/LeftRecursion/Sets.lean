import Predictive.Proofs.Factoring.Sets

/-!
# What an elimination of left recursion does to FIRST and FOLLOW

A tail begins with what can follow its left side in the recursive alternatives, and it stands where
the left side ended. So the sets of the given grammar, with these sets for the tails, are closed
under the new rules (`FirstClosed.withTails`, `FollowClosed.withTails`): no old set becomes larger.
No FIRST becomes smaller either, since the new FIRST sets are closed under the old rules.

FOLLOW does become smaller. In `A -> A α` the symbols of `α` follow `A`; after an elimination they
begin the tail instead. `withRemainders` adds them to the new sets of the left sides again, and the
result is closed under the old rules if the grammar is `Grounded`: a left-recursive symbol without
an alternative that begins with something else has no alternative left in the new grammar, and then
nothing leads from it to its tail.
-/

namespace Predictive

theorem firstOf_ofSequence (first : SymbolSets) (α : List Symbol) :
    firstOf first (Alternative.ofSequence α) = firstOf first α := by
  rw [← firstOf_visible, visible_ofSequence, firstOf_visible]

namespace Grammar

variable {g : Grammar} {first follow : SymbolSets}

/-! ### Recursive alternatives -/

def DirectlyRecursive (g : Grammar) (A : Symbol) : Prop :=
  ∃ α, (A, A :: α) ∈ g.rules

/-- Every directly left-recursive symbol has an alternative that begins with something else. -/
def Grounded (g : Grammar) : Prop :=
  ∀ A, g.DirectlyRecursive A → ∃ b, (A, b) ∈ g.rules ∧ List.head? b ≠ some A

def remainders (g : Grammar) (A : Symbol) : List (List Symbol) :=
  (g.rules.filter fun r => r.1 = A ∧ List.head? r.2 = some A).map fun r => r.2.tail

theorem mem_remainders {A : Symbol} {α : List Symbol} :
    α ∈ g.remainders A ↔ (A, A :: α) ∈ g.rules := by
  rw [remainders, List.mem_map]
  constructor
  · rintro ⟨⟨left, a⟩, hr, rfl⟩
    obtain ⟨hrule, hhead⟩ := List.mem_filter.mp hr
    obtain ⟨rfl, hhead⟩ : left = A ∧ List.head? a = some A := by simpa using hhead
    obtain ⟨α, rfl⟩ := List.head?_eq_some_iff.mp hhead
    exact hrule
  · intro hrule
    exact ⟨_, List.mem_filter.mpr ⟨hrule, by simp⟩, rfl⟩

theorem mem_recursive_iff (hg : g.WellFormed) {p : Production} (hp : p ∈ g.productions)
    {α : List Symbol} : α ∈ p.recursive ↔ (p.left, p.left :: α) ∈ g.rules := by
  rw [Production.mem_recursive]
  exact ⟨fun ha => (mem_rules_iff _ _ _).mpr ⟨p, hp, rfl, ha⟩, hg.mem_alternatives_of_rule hp⟩

theorem mem_others_iff (hg : g.WellFormed) {p : Production} (hp : p ∈ g.productions)
    {b : Alternative} : b ∈ p.others ↔ (p.left, b) ∈ g.rules ∧ List.head? b ≠ some p.left := by
  rw [Production.others, List.mem_filter, bne_iff_ne]
  refine and_congr_left fun _ => ?_
  exact ⟨fun hb => (mem_rules_iff _ _ _).mpr ⟨p, hp, rfl, hb⟩, hg.mem_alternatives_of_rule hp⟩

/-! ### The record of an elimination -/

theorem exists_removes_of_mem_removals {symbols : SymbolTable} {productions : List Production}
    {removal : Removal} (h : removal ∈ (eliminateProductions symbols productions).removals) :
    ∃ p ∈ productions, p.left = removal.left ∧
      (eliminateProductions symbols productions).Removes p removal.tail := by
  induction productions generalizing symbols with
  | nil => cases h
  | cons q rest ih =>
      by_cases hq : q.recursive = []
      · rw [eliminateProductions_cons_of_nil symbols rest hq] at h
        obtain ⟨p, hp, hleft, hremoves⟩ := ih h
        exact ⟨p, List.mem_cons_of_mem _ hp, hleft, hremoves.cons_of_nil hq⟩
      · have hremoved := removes_cons symbols rest hq
        rw [eliminateProductions_cons_of_ne_nil symbols rest hq] at h
        rcases List.mem_cons.mp h with rfl | h
        · exact ⟨q, List.mem_cons_self, rfl, hremoved⟩
        · obtain ⟨p, hp, hleft, hremoves⟩ := ih h
          exact ⟨p, List.mem_cons_of_mem _ hp, hleft, hremoves.cons_of_ne_nil hq⟩

theorem WellFormed.removal_left_eq (hg : g.WellFormed) {p : Production} {removal : Removal}
    (hremoves : g.elimination.Removes p removal.tail) (h : removal ∈ g.elimination.removals) :
    removal.left = p.left := by
  have heq := List.inj_on_of_nodup_map hg.tails_nodup.1 h hremoves.removal_mem rfl
  rw [heq]

section Removed

variable (hg : g.WellFormed) {p : Production} (hp : p ∈ g.productions) {tail : Symbol}
  (hremoves : g.elimination.Removes p tail)
include hg hp hremoves

theorem mem_rules_left_iff {a : Alternative} :
    (p.left, a) ∈ g.eliminated.rules ↔ ∃ b, (p.left, b) ∈ g.rules ∧
      List.head? b ≠ some p.left ∧ a = Alternative.ofSequence (b ++ [tail]) := by
  have hmem : (p.left, a) ∈ g.eliminated.rules ↔ a ∈ (p.withTail tail).alternatives :=
    ⟨hg.eliminated.mem_alternatives_of_rule hremoves.withTail_mem,
      fun ha => (mem_rules_iff _ _ _).mpr ⟨_, hremoves.withTail_mem, rfl, ha⟩⟩
  simp only [hmem, Production.mem_withTail, mem_others_iff hg hp, and_assoc]

theorem mem_rules_tail_iff {a : Alternative} :
    (tail, a) ∈ g.eliminated.rules ↔ a = [.epsilon] ∨ ∃ α, (p.left, p.left :: α) ∈ g.rules ∧
      a = Alternative.ofSequence (α ++ [tail]) := by
  have hmem : (tail, a) ∈ g.eliminated.rules ↔ a ∈ (p.tailProduction tail).alternatives :=
    ⟨hg.eliminated.mem_alternatives_of_rule hremoves.tailProduction_mem,
      fun ha => (mem_rules_iff _ _ _).mpr ⟨_, hremoves.tailProduction_mem, rfl, ha⟩⟩
  simp only [hmem, Production.mem_tailProduction, mem_recursive_iff hg hp, or_comm]

end Removed

/-! ### Sets for the tails -/

def withTailSets (g : Grammar) (sets : SymbolSets) (new : Symbol → List Symbol) : SymbolSets :=
  ⟨g.eliminated.nonTerminals.map fun k => (k, if k ∈ g.symbols.named then sets.members k else
    (g.elimination.removals.filter (·.tail = k)).flatMap fun removal => new removal.left)⟩

def tailedFirst (g : Grammar) (first : SymbolSets) : SymbolSets :=
  g.withTailSets first fun A => .epsilon :: (g.remainders A).flatMap (firstOf first)

def tailedFollow (g : Grammar) (follow : SymbolSets) : SymbolSets :=
  g.withTailSets follow follow.members

theorem members_withTailSets {sets : SymbolSets} {new : Symbol → List Symbol} {k : Symbol}
    (hk : k ∈ g.eliminated.nonTerminals) :
    (g.withTailSets sets new).members k = if k ∈ g.symbols.named then sets.members k else
      (g.elimination.removals.filter (·.tail = k)).flatMap fun removal => new removal.left := by
  rw [SymbolSets.members, SymbolSets.get?, withTailSets, lookup_map_of_mem _ hk, Option.getD_some]

theorem contains_withTailSets_of_mem {sets : SymbolSets} {new : Symbol → List Symbol}
    {k s : Symbol} (hk : k ∈ g.nonTerminals) :
    (g.withTailSets sets new).contains k s = true ↔ sets.contains k s = true := by
  rw [SymbolSets.contains_iff, SymbolSets.contains_iff,
    members_withTailSets (nonTerminals_subset_eliminated g hk), if_pos (mem_nonTerminals.mp hk).1]

theorem mem_firstOf_withTailSets {sets : SymbolSets} {new : Symbol → List Symbol}
    {α : List Symbol} (hα : ∀ s ∈ α, s = .epsilon ∨ s ∈ g.symbols.named) {s : Symbol} :
    s ∈ firstOf (g.withTailSets sets new) α ↔ s ∈ firstOf sets α :=
  mem_firstOf_congr_of_named (fun _ hA _ => contains_withTailSets_of_mem hA) hα

section Removed

variable (hg : g.WellFormed) {p : Production} (hp : p ∈ g.productions) {tail : Symbol}
  (hremoves : g.elimination.Removes p tail)
include hg hp hremoves

theorem contains_withTailSets_of_removes {sets : SymbolSets} {new : Symbol → List Symbol}
    {s : Symbol} : (g.withTailSets sets new).contains tail s = true ↔ s ∈ new p.left := by
  have hmem : tail ∈ g.eliminated.nonTerminals := left_mem_eliminated hremoves.tailProduction_mem
  rw [SymbolSets.contains_iff, members_withTailSets hmem,
    if_neg (hg.mem_named_of_removes hp hremoves).1, List.mem_flatMap]
  constructor
  · rintro ⟨removal, hremoval, hs⟩
    obtain ⟨hrecord, htail⟩ := List.mem_filter.mp hremoval
    obtain rfl : removal.tail = tail := by simpa using htail
    rwa [hg.removal_left_eq hremoves hrecord] at hs
  · exact fun hs => ⟨_, List.mem_filter.mpr ⟨hremoves.removal_mem, by simp⟩, hs⟩

theorem contains_tailedFirst_of_removes {s : Symbol} :
    (g.tailedFirst first).contains tail s = true ↔
      s = .epsilon ∨ ∃ α, (p.left, p.left :: α) ∈ g.rules ∧ s ∈ firstOf first α := by
  rw [tailedFirst, contains_withTailSets_of_removes hg hp hremoves, List.mem_cons,
    List.mem_flatMap]
  simp only [mem_remainders]

end Removed

/-! ### FIRST -/

section Removed

variable (hg : g.WellFormed) {p : Production} (hp : p ∈ g.productions) {tail : Symbol}
  (hremoves : g.elimination.Removes p tail)
include hg hp hremoves

/-- What is put in front of a tail begins as before, and where it vanishes as the remainders do. -/
theorem mem_firstOf_tailedFirst {α : List Symbol}
    (hα : ∀ s ∈ α, s = .epsilon ∨ s ∈ g.symbols.named) {s : Symbol} :
    s ∈ firstOf (g.tailedFirst first) (Alternative.ofSequence (α ++ [tail])) ↔
      s ∈ firstOf first α ∧ s ≠ .epsilon ∨ .epsilon ∈ firstOf first α ∧
        (s = .epsilon ∨ ∃ β, (p.left, p.left :: β) ∈ g.rules ∧ s ∈ firstOf first β) := by
  obtain ⟨name, rfl⟩ := exists_eq_of_mem_tails _ _ hremoves.tail_mem
  have hold : ∀ t, t ∈ firstOf (g.tailedFirst first) α ↔ t ∈ firstOf first α :=
    fun t => mem_firstOf_withTailSets hα
  rw [firstOf_ofSequence, mem_firstOf_append, hold, hold, mem_firstOf_singleton,
    contains_tailedFirst_of_removes hg hp hremoves]

end Removed

theorem FirstClosed.withTails (hg : g.WellFormed) (h : g.FirstClosed first) :
    g.eliminated.FirstClosed (g.tailedFirst first) := by
  intro left a hrule s hs
  rcases hg.mem_rules_eliminated hrule with ⟨hold, -⟩ | ⟨p, hp, tail, hremoves, hcases⟩
  · rw [tailedFirst, contains_withTailSets_of_mem (hg.left_mem_of_rule hold)]
    exact h left a hold s ((mem_firstOf_withTailSets (hg.mem_named _ hold)).mp hs)
  · obtain ⟨-, hothers, hrecursive⟩ := hg.mem_named_of_removes hp hremoves
    rcases hcases with ⟨rfl, b, hb, rfl⟩ | ⟨rfl, α, hα, rfl⟩ | ⟨rfl, rfl⟩
    · have hrule' := ((mem_others_iff hg hp).mp hb).1
      rw [tailedFirst, contains_withTailSets_of_mem (hg.left_mem p hp)]
      rcases (mem_firstOf_tailedFirst hg hp hremoves (hothers b hb)).mp hs with
        ⟨hs, -⟩ | ⟨hvanishes, rfl | ⟨β, hβ, hs⟩⟩
      · exact h _ _ hrule' s hs
      · exact h _ _ hrule' _ hvanishes
      · -- the left side vanishes with `b`, so what follows it in `p.left :: β` comes to the front
        obtain ⟨name, hname⟩ := exists_eq_of_mem_nonTerminals (hg.left_mem p hp)
        have hleft := h _ _ hrule' _ hvanishes
        refine h _ _ hβ s ?_
        rw [hname] at hleft ⊢
        exact mem_firstOf_nonTerminal.mpr (.inr ⟨hleft, hs⟩)
    · have hrule' := (mem_recursive_iff hg hp).mp hα
      rw [contains_tailedFirst_of_removes hg hp hremoves]
      rcases (mem_firstOf_tailedFirst hg hp hremoves (hrecursive α hα)).mp hs with
        ⟨hs, -⟩ | ⟨-, hs⟩
      · exact .inr ⟨α, hrule', hs⟩
      · exact hs
    · rw [contains_tailedFirst_of_removes hg hp hremoves]
      exact .inl (List.mem_singleton.mp hs)

namespace Exact

variable {first' follow' : SymbolSets}

theorem exists_rule (h : g.Exact first follow) {A s : Symbol} (hA : A ∈ g.nonTerminals)
    (hs : first.contains A s = true) : ∃ a, (A, a) ∈ g.rules ∧ s ∈ firstOf first a := by
  obtain ⟨name, rfl⟩ := exists_eq_of_mem_nonTerminals hA
  have hbegin := h.firstSound _ s hs
  suffices hrule : ∃ a, (.nonTerminal name, a) ∈ g.rules ∧ g.CanBegin a s by
    obtain ⟨a, hrule, ha⟩ := hrule
    exact ⟨a, hrule, h.firstClosed.mem_firstOf_of_canBegin ha⟩
  cases s with
  | epsilon => exact (derives_nonTerminal_iff.mp hbegin).resolve_left (by simp)
  | terminal t =>
      obtain ⟨β, hβ⟩ := hbegin
      obtain ⟨a, hrule, ha⟩ := (derives_nonTerminal_iff.mp hβ).resolve_left (by simp)
      exact ⟨a, hrule, β, ha⟩
  | endMarker => exact hbegin.elim
  | nonTerminal t => exact hbegin.elim

theorem firstClosed_of_eliminated (hg : g.WellFormed) (h' : g.eliminated.Exact first' follow') :
    g.FirstClosed first' := by
  intro left a hrule s hs
  rcases hg.mem_rules_of_eliminated hrule with ⟨hkept, -⟩ | ⟨p, hp, rfl, ha, tail, hremoves⟩
  · exact h'.firstClosed left a hkept s hs
  obtain ⟨tailName, rfl⟩ := exists_eq_of_mem_tails _ _ hremoves.tail_mem
  have htail : first'.contains (.nonTerminal tailName) .epsilon = true :=
    h'.firstClosed _ _ ((mem_rules_tail_iff hg hp hremoves).mpr (.inl rfl)) _ List.mem_cons_self
  have hothers : ∀ b, (p.left, b) ∈ g.rules → List.head? b ≠ some p.left →
      ∀ t ∈ firstOf first' (b ++ [.nonTerminal tailName]), first'.contains p.left t = true := by
    intro b hb hhead t ht
    refine h'.firstClosed _ _ ((mem_rules_left_iff hg hp hremoves).mpr ⟨b, hb, hhead, rfl⟩) t ?_
    rwa [firstOf_ofSequence]
  by_cases hhead : List.head? a = some p.left
  · obtain ⟨α, rfl⟩ := List.head?_eq_some_iff.mp hhead
    obtain ⟨name, hname⟩ := exists_eq_of_mem_nonTerminals (hg.left_mem p hp)
    rw [hname, mem_firstOf_nonTerminal, ← hname] at hs
    rcases hs with ⟨hs, -⟩ | ⟨hvanishes, hs⟩
    · exact hs
    by_cases hne : s = .epsilon
    · exact hne ▸ hvanishes
    -- some other alternative vanishes, and the tail behind it begins with what `α` begins with
    obtain ⟨a', hrule', hvanishes'⟩ := h'.exists_rule
      (nonTerminals_subset_eliminated g (hg.left_mem p hp)) hvanishes
    obtain ⟨b, hb, hbhead, rfl⟩ := (mem_rules_left_iff hg hp hremoves).mp hrule'
    rw [firstOf_ofSequence, mem_firstOf_append] at hvanishes'
    have hb' := (hvanishes'.resolve_left (fun h => h.2 rfl)).1
    refine hothers b hb hbhead s (mem_firstOf_append.mpr (.inr ⟨hb', mem_firstOf_singleton.mpr ?_⟩))
    refine h'.firstClosed _ _ ((mem_rules_tail_iff hg hp hremoves).mpr (.inr ⟨α, hrule, rfl⟩)) s ?_
    rw [firstOf_ofSequence]
    exact mem_firstOf_append.mpr (.inl ⟨hs, hne⟩)
  · refine hothers a hrule hhead s (mem_firstOf_append.mpr ?_)
    by_cases hne : s = .epsilon
    · exact .inr ⟨hne ▸ hs, mem_firstOf_singleton.mpr (hne ▸ htail)⟩
    · exact .inl ⟨hs, hne⟩

theorem first_eliminated (hg : g.WellFormed) (h : g.Exact first follow)
    (h' : g.eliminated.Exact first' follow') {A : Symbol} (hA : A ∈ g.nonTerminals) (s : Symbol) :
    first'.contains A s = first.contains A s := by
  rw [Bool.eq_iff_iff]
  constructor
  · intro hs
    exact (contains_withTailSets_of_mem hA).mp (h'.contains_first (h.firstClosed.withTails hg)
      (nonTerminals_subset_eliminated g hA) hs)
  · exact h.contains_first (h'.firstClosed_of_eliminated hg) hA

theorem mem_firstOf_eliminated (hg : g.WellFormed) (h : g.Exact first follow)
    (h' : g.eliminated.Exact first' follow') {α : List Symbol}
    (hα : ∀ s ∈ α, s = .epsilon ∨ s ∈ g.symbols.named) {s : Symbol} :
    s ∈ firstOf first' α ↔ s ∈ firstOf first α :=
  mem_firstOf_congr_of_named (fun A hA t => by rw [h.first_eliminated hg h' hA]) hα

theorem first_tail (hg : g.WellFormed) (h : g.Exact first follow)
    (h' : g.eliminated.Exact first' follow') {p : Production} (hp : p ∈ g.productions)
    {tail : Symbol} (hremoves : g.elimination.Removes p tail) {s : Symbol} (hne : s ≠ .epsilon) :
    first'.contains tail s = true ↔
      ∃ α, (p.left, p.left :: α) ∈ g.rules ∧ s ∈ firstOf first α := by
  constructor
  · intro hs
    have hmem := left_mem_eliminated hremoves.tailProduction_mem
    have hs' := h'.contains_first (h.firstClosed.withTails hg) hmem hs
    exact ((contains_tailedFirst_of_removes hg hp hremoves).mp hs').resolve_left hne
  · rintro ⟨α, hrule, hs⟩
    have hnamed := fun x hx => hg.mem_named _ hrule x (List.mem_cons_of_mem _ hx)
    refine h'.firstClosed _ _ ((mem_rules_tail_iff hg hp hremoves).mpr (.inr ⟨α, hrule, rfl⟩)) s ?_
    rw [firstOf_ofSequence, mem_firstOf_append, h.mem_firstOf_eliminated hg h' hnamed]
    exact .inl ⟨hs, hne⟩

end Exact

/-! ### Occurrences -/

theorem ofSequence_append_tail (α : List Symbol) (name : String) :
    Alternative.ofSequence (α ++ [.nonTerminal name]) = visible α ++ [.nonTerminal name] := by
  have hvisible : visible (α ++ [.nonTerminal name]) = visible α ++ [.nonTerminal name] := by
    rw [visible_append]
    rfl
  change Alternative.orEpsilon (visible (α ++ [.nonTerminal name])) = _
  rw [hvisible]
  cases visible α <;> rfl

/-- An occurrence in an alternative that ends in a tail is the tail itself or stands before it. -/
theorem suffix_of_append_tail {before rest α : List Symbol} {X : Symbol} {name : String}
    (h : before ++ X :: rest = Alternative.ofSequence (α ++ [.nonTerminal name])) :
    X = .nonTerminal name ∧ rest = [] ∨ ∃ rest₀, X :: rest₀ <:+ α ∧
      rest = Alternative.ofSequence (rest₀ ++ [.nonTerminal name]) := by
  rw [ofSequence_append_tail] at h
  rcases List.eq_nil_or_concat rest with rfl | ⟨init, last, rfl⟩
  · obtain ⟨-, hX⟩ := List.append_inj' h rfl
    exact .inl ⟨List.singleton_inj.mp hX, rfl⟩
  · rw [List.concat_eq_append, ← List.cons_append, ← List.append_assoc] at h
    obtain ⟨hinit, hlast⟩ := List.append_inj' h rfl
    obtain ⟨rest₀, hsuffix, hrest⟩ :=
      exists_suffix_of_suffix_visible (hinit ▸ List.suffix_append before (X :: init))
    refine .inr ⟨rest₀, hsuffix, ?_⟩
    rw [ofSequence_append_tail, hrest, List.concat_eq_append, List.singleton_inj.mp hlast]

theorem suffix_append_tail {X : Symbol} (hX : X ≠ .epsilon) {rest α : List Symbol} {name : String}
    (h : X :: rest <:+ α) :
    X :: Alternative.ofSequence (rest ++ [.nonTerminal name]) <:+
      Alternative.ofSequence (α ++ [.nonTerminal name]) := by
  obtain ⟨before, rfl⟩ := h
  refine ⟨visible before, ?_⟩
  rw [ofSequence_append_tail, ofSequence_append_tail, visible_append, visible_cons hX,
    List.append_assoc, List.cons_append]

theorem ne_epsilon_of_isNonTerminal {s : Symbol} (hs : s.isNonTerminal = true) : s ≠ .epsilon := by
  rintro rfl
  cases hs

theorem mem_occurrences_of_suffix {left X : Symbol} {a rest : List Symbol}
    (hrule : (left, a) ∈ g.rules) (hX : X.isNonTerminal = true) (h : X :: rest <:+ a) :
    ⟨left, X, rest⟩ ∈ g.occurrences := by
  obtain ⟨before, rfl⟩ := h
  exact mem_occurrences_iff.mpr ⟨hX, before, hrule⟩

/-- A new occurrence is an old one, or a tail, or an old one in front of a tail. -/
theorem mem_occurrences_eliminated (hg : g.WellFormed) {o : Occurrence}
    (ho : o ∈ g.eliminated.occurrences) :
    o ∈ g.occurrences ∨ ∃ p ∈ g.productions, ∃ tail, g.elimination.Removes p tail ∧
      (o.left = p.left ∨ o.left = tail) ∧ (o.symbol = tail ∧ o.rest = [] ∨
        ∃ rest, ⟨p.left, o.symbol, rest⟩ ∈ g.occurrences ∧
          o.rest = Alternative.ofSequence (rest ++ [tail])) := by
  obtain ⟨hX, before, hrule⟩ := mem_occurrences_iff.mp ho
  rcases hg.mem_rules_eliminated hrule with ⟨hold, -⟩ | ⟨p, hp, tail, hremoves, hcases⟩
  · exact .inl (mem_occurrences_iff.mpr ⟨hX, before, hold⟩)
  obtain ⟨name, rfl⟩ := exists_eq_of_mem_tails _ _ hremoves.tail_mem
  refine .inr ⟨p, hp, _, hremoves, ?_⟩
  rcases hcases with ⟨hleft, b, hb, heq⟩ | ⟨hleft, α, hα, heq⟩ | ⟨-, heq⟩
  · have hrule' := ((mem_others_iff hg hp).mp hb).1
    refine ⟨.inl hleft, (suffix_of_append_tail heq).imp_right ?_⟩
    exact fun ⟨rest, hsuffix, hrest⟩ => ⟨rest, mem_occurrences_of_suffix hrule' hX hsuffix, hrest⟩
  · have hrule' := (mem_recursive_iff hg hp).mp hα
    refine ⟨.inr hleft, (suffix_of_append_tail heq).imp_right ?_⟩
    exact fun ⟨rest, hsuffix, hrest⟩ =>
      ⟨rest, mem_occurrences_of_suffix hrule' hX (hsuffix.trans (List.suffix_cons _ _)), hrest⟩
  · have hmem : o.symbol ∈ [Symbol.epsilon] := heq ▸ by simp
    exact absurd (List.mem_singleton.mp hmem) (ne_epsilon_of_isNonTerminal hX)

/-! ### FOLLOW does not become larger -/

theorem contains_tailedFollow (hg : g.WellFormed) {p : Production} (hp : p ∈ g.productions)
    {tail : Symbol} (hremoves : g.elimination.Removes p tail) {left s : Symbol}
    (hleft : left = p.left ∨ left = tail) :
    (g.tailedFollow follow).contains left s = true ↔ follow.contains p.left s = true := by
  rcases hleft with rfl | rfl
  · exact contains_withTailSets_of_mem (hg.left_mem p hp)
  · rw [tailedFollow, contains_withTailSets_of_removes hg hp hremoves, SymbolSets.contains_iff]

/-- What a remainder begins with follows its left side. -/
theorem FollowClosed.contains_of_remainder (h : g.FollowClosed first follow) (hg : g.WellFormed)
    {A s : Symbol} {α : List Symbol} (hrule : (A, A :: α) ∈ g.rules) (hs : s ∈ firstOf first α)
    (hne : s ≠ .epsilon) : follow.contains A s = true := by
  have hA := (mem_nonTerminals.mp (hg.left_mem_of_rule hrule)).2
  exact h.inside _ (mem_occurrences_of_suffix hrule hA (List.suffix_refl _)) s hs hne

theorem FollowClosed.withTails (hg : g.WellFormed) (h : g.FollowClosed first follow) :
    g.eliminated.FollowClosed (g.tailedFirst first) (g.tailedFollow follow) where
  inside o ho s hs hne := by
    rcases mem_occurrences_eliminated hg ho with hold | ⟨p, hp, tail, hremoves, -,
      ⟨-, hrest⟩ | ⟨rest, hocc, hrest⟩⟩
    · obtain ⟨-, hmem, hnamed⟩ := hg.mem_of_mem_occurrences hold
      exact (contains_withTailSets_of_mem hmem).mpr
        (h.inside o hold s ((mem_firstOf_withTailSets hnamed).mp hs) hne)
    · rw [hrest, firstOf_nil, List.mem_singleton] at hs
      exact absurd hs hne
    · obtain ⟨-, hmem, hnamed⟩ := hg.mem_of_mem_occurrences hocc
      rw [hrest, mem_firstOf_tailedFirst hg hp hremoves hnamed] at hs
      refine (contains_withTailSets_of_mem hmem).mpr ?_
      rcases hs with ⟨hs, -⟩ | ⟨hvanishes, hs⟩
      · exact h.inside _ hocc s hs hne
      · obtain ⟨β, hβ, hs⟩ := hs.resolve_left hne
        exact h.behind _ hocc hvanishes s (h.contains_of_remainder hg hβ hs hne)
  behind o ho hvanishes s hs := by
    rcases mem_occurrences_eliminated hg ho with hold | ⟨p, hp, tail, hremoves, hleft,
      ⟨hsymbol, -⟩ | ⟨rest, hocc, hrest⟩⟩
    · obtain ⟨hleft, hmem, hnamed⟩ := hg.mem_of_mem_occurrences hold
      exact (contains_withTailSets_of_mem hmem).mpr (h.behind o hold
        ((mem_firstOf_withTailSets hnamed).mp hvanishes) s
        ((contains_withTailSets_of_mem hleft).mp hs))
    · rw [hsymbol]
      exact (contains_tailedFollow hg hp hremoves (.inr rfl)).mpr
        ((contains_tailedFollow hg hp hremoves hleft).mp hs)
    · obtain ⟨-, hmem, hnamed⟩ := hg.mem_of_mem_occurrences hocc
      rw [hrest, mem_firstOf_tailedFirst hg hp hremoves hnamed] at hvanishes
      exact (contains_withTailSets_of_mem hmem).mpr (h.behind _ hocc
        (hvanishes.resolve_left fun hne => hne.2 rfl).1 s
        ((contains_tailedFollow hg hp hremoves hleft).mp hs))

theorem Exact.follow_eliminated_le {first' follow' : SymbolSets} (hg : g.WellFormed)
    (h : g.Exact first follow) (h' : g.eliminated.Exact first' follow') {A s : Symbol}
    (hA : A ∈ g.nonTerminals) (hs : follow'.contains A s = true) : follow.contains A s = true := by
  refine (contains_withTailSets_of_mem hA).mp (h'.contains_follow (h.firstClosed.withTails hg)
    (h.followClosed.withTails hg) (fun start hstart => ?_)
    (nonTerminals_subset_eliminated g hA) hs)
  exact (contains_withTailSets_of_mem (hg.start_mem start hstart)).mpr (h.start start hstart)

/-! ### FOLLOW becomes smaller by the remainders only -/

def withRemainders (g : Grammar) (first follow : SymbolSets) : SymbolSets :=
  ⟨g.nonTerminals.map fun A => (A, follow.members A ++
    (g.remainders A).flatMap fun α => withoutEpsilon (firstOf first α))⟩

theorem contains_withRemainders {A s : Symbol} (hA : A ∈ g.nonTerminals) :
    (g.withRemainders first follow).contains A s = true ↔ follow.contains A s = true ∨
      ∃ α, (A, A :: α) ∈ g.rules ∧ s ∈ firstOf first α ∧ s ≠ .epsilon := by
  rw [SymbolSets.contains_iff, SymbolSets.contains_iff, SymbolSets.members, SymbolSets.get?,
    withRemainders, lookup_map_of_mem _ hA, Option.getD_some, List.mem_append, List.mem_flatMap]
  simp only [mem_remainders, mem_withoutEpsilon]

namespace Exact

variable {first' follow' : SymbolSets}

theorem contains_before_tail (h' : g.eliminated.Exact first' follow') {L X : Symbol}
    {name : String} {rest : List Symbol}
    (hocc : ⟨L, X, Alternative.ofSequence (rest ++ [.nonTerminal name])⟩ ∈
      g.eliminated.occurrences)
    (hvanishes : first'.contains (.nonTerminal name) .epsilon = true) {s : Symbol}
    (hs : s ∈ firstOf first' rest ∧ s ≠ .epsilon ∨ .epsilon ∈ firstOf first' rest ∧
      (first'.contains (.nonTerminal name) s = true ∧ s ≠ .epsilon ∨
        follow'.contains L s = true)) :
    follow'.contains X s = true := by
  have hinside : ∀ t, t ∈ firstOf first' (Alternative.ofSequence (rest ++ [.nonTerminal name])) ↔
      t ∈ firstOf first' rest ∧ t ≠ .epsilon ∨ .epsilon ∈ firstOf first' rest ∧
        first'.contains (.nonTerminal name) t = true := by
    intro t
    rw [firstOf_ofSequence, mem_firstOf_append, mem_firstOf_singleton]
  rcases hs with hs | ⟨hrest, ⟨hs, hne⟩ | hs⟩
  · exact h'.followClosed.inside _ hocc s ((hinside s).mpr (.inl hs)) hs.2
  · exact h'.followClosed.inside _ hocc s ((hinside s).mpr (.inr ⟨hrest, hs⟩)) hne
  · exact h'.followClosed.behind _ hocc ((hinside _).mpr (.inr ⟨hrest, hvanishes⟩)) s hs

/-- A tail is followed by what follows its left side, if the left side leads to it at all. -/
theorem contains_tail_of_left (hg : g.WellFormed) (h' : g.eliminated.Exact first' follow')
    (hgrounded : g.Grounded) {p : Production} (hp : p ∈ g.productions) {tail : Symbol}
    (hremoves : g.elimination.Removes p tail) {s : Symbol}
    (hs : follow'.contains p.left s = true) : follow'.contains tail s = true := by
  obtain ⟨α, hα⟩ := List.exists_mem_of_ne_nil _ hremoves.recursive_ne_nil
  obtain ⟨b, hb, hhead⟩ := hgrounded p.left ⟨α, (mem_recursive_iff hg hp).mp hα⟩
  obtain ⟨name, rfl⟩ := exists_eq_of_mem_tails _ _ hremoves.tail_mem
  have hrule := (mem_rules_left_iff hg hp hremoves).mpr ⟨b, hb, hhead, rfl⟩
  rw [ofSequence_append_tail] at hrule
  have hocc : ⟨p.left, .nonTerminal name, []⟩ ∈ g.eliminated.occurrences :=
    mem_occurrences_iff.mpr ⟨rfl, visible b, hrule⟩
  exact h'.followClosed.behind _ hocc List.mem_cons_self s hs

end Exact

/-- An old occurrence is kept, or it begins a recursive alternative, or it stands in front of a tail
now. -/
theorem mem_occurrences_of_eliminated (hg : g.WellFormed) {o : Occurrence}
    (ho : o ∈ g.occurrences) :
    o ∈ g.eliminated.occurrences ∧ ¬ g.DirectlyRecursive o.left ∨
      ∃ p ∈ g.productions, p.left = o.left ∧ ∃ tail, g.elimination.Removes p tail ∧
        (o.symbol = o.left ∧ (o.left, o.left :: o.rest) ∈ g.rules ∨
          ∃ L, (L = o.left ∨ L = tail) ∧
            ⟨L, o.symbol, Alternative.ofSequence (o.rest ++ [tail])⟩ ∈
              g.eliminated.occurrences) := by
  obtain ⟨hX, before, hrule⟩ := mem_occurrences_iff.mp ho
  obtain ⟨p, hp, hleft, ha⟩ := (mem_rules_iff _ _ _).mp hrule
  rcases mem_or_removes g.symbols _ (hg.mem_productionsInOrder.mpr hp) with
    ⟨hkept, hnil⟩ | ⟨tail, hremoves⟩
  · refine .inl ⟨mem_occurrences_iff.mpr ⟨hX, before, ?_⟩, ?_⟩
    · exact (mem_rules_iff _ _ _).mpr ⟨p, hkept, hleft, ha⟩
    · rintro ⟨α, hα⟩
      rw [← hleft] at hα
      have hmem := (mem_recursive_iff hg hp).mpr hα
      rw [hnil] at hmem
      cases hmem
  · refine .inr ⟨p, hp, hleft, tail, hremoves, ?_⟩
    rw [← hleft] at hrule ⊢
    obtain ⟨name, rfl⟩ := exists_eq_of_mem_tails _ _ hremoves.tail_mem
    have hne := ne_epsilon_of_isNonTerminal hX
    by_cases hhead : List.head? (before ++ o.symbol :: o.rest) = some p.left
    · cases before with
      | nil =>
          have hsymbol : o.symbol = p.left := Option.some.inj hhead
          exact .inl ⟨hsymbol, hsymbol ▸ hrule⟩
      | cons x before =>
          obtain rfl : x = p.left := Option.some.inj hhead
          have htail := (mem_rules_tail_iff hg hp hremoves).mpr
            (.inr ⟨before ++ o.symbol :: o.rest, hrule, rfl⟩)
          exact .inr ⟨_, .inr rfl, mem_occurrences_of_suffix htail hX
            (suffix_append_tail hne (List.suffix_append before _))⟩
    · have hwith := (mem_rules_left_iff hg hp hremoves).mpr ⟨_, hrule, hhead, rfl⟩
      exact .inr ⟨_, .inl rfl, mem_occurrences_of_suffix hwith hX
        (suffix_append_tail hne (List.suffix_append before _))⟩

namespace Exact

variable {first' follow' : SymbolSets} (hg : g.WellFormed) (h : g.Exact first follow)
  (h' : g.eliminated.Exact first' follow')
include hg h h'

/-- In a grounded grammar the new FOLLOW sets with the remainders are closed under the old rules. -/
theorem followClosed_withRemainders (hgrounded : g.Grounded) :
    g.FollowClosed first (g.withRemainders first follow') where
  inside o ho s hs hne := by
    obtain ⟨-, hmem, hnamed⟩ := hg.mem_of_mem_occurrences ho
    rw [contains_withRemainders hmem]
    have hs' := (h.mem_firstOf_eliminated hg h' hnamed).mpr hs
    rcases mem_occurrences_of_eliminated hg ho with ⟨hkept, -⟩ | ⟨p, hp, hleft, tail, hremoves,
      ⟨hsymbol, hrule⟩ | ⟨L, -, hocc⟩⟩
    · exact .inl (h'.followClosed.inside o hkept s hs' hne)
    · exact .inr ⟨o.rest, hsymbol ▸ hrule, hs, hne⟩
    · obtain ⟨name, rfl⟩ := exists_eq_of_mem_tails _ _ hremoves.tail_mem
      have hvanishes := h'.firstClosed _ _
        ((mem_rules_tail_iff hg hp hremoves).mpr (.inl rfl)) _ List.mem_cons_self
      exact .inl (h'.contains_before_tail hocc hvanishes (.inl ⟨hs', hne⟩))
  behind o ho hrest s hs := by
    obtain ⟨hleftmem, hmem, hnamed⟩ := hg.mem_of_mem_occurrences ho
    have hrest' := (h.mem_firstOf_eliminated hg h' hnamed).mpr hrest
    rcases mem_occurrences_of_eliminated hg ho with ⟨hkept, hnot⟩ | ⟨p, hp, hleft, tail, hremoves,
      ⟨hsymbol, -⟩ | ⟨L, hL, hocc⟩⟩
    · rw [contains_withRemainders hleftmem] at hs
      rw [contains_withRemainders hmem]
      have hs' := hs.resolve_right fun ⟨α, hα, _⟩ => hnot ⟨α, hα⟩
      exact .inl (h'.followClosed.behind o hkept hrest' s hs')
    · rwa [hsymbol]
    · rw [contains_withRemainders hleftmem] at hs
      rw [contains_withRemainders hmem]
      obtain ⟨name, rfl⟩ := exists_eq_of_mem_tails _ _ hremoves.tail_mem
      have hvanishes := h'.firstClosed _ _
        ((mem_rules_tail_iff hg hp hremoves).mpr (.inl rfl)) _ List.mem_cons_self
      refine .inl (h'.contains_before_tail hocc hvanishes (.inr ⟨hrest', ?_⟩))
      rw [← hleft] at hs hL
      rcases hs with hs | ⟨α, hα, hs, hne⟩
      · rcases hL with rfl | rfl
        · exact .inr hs
        · exact .inr (h'.contains_tail_of_left hg hgrounded hp hremoves hs)
      · exact .inl ⟨(h.first_tail hg h' hp hremoves hne).mpr ⟨α, hα, hs⟩, hne⟩

/-- What an elimination takes from a FOLLOW set are the remainders. -/
theorem follow_iff_withRemainders (hgrounded : g.Grounded) {A s : Symbol}
    (hA : A ∈ g.nonTerminals) :
    follow.contains A s = true ↔ follow'.contains A s = true ∨
      ∃ α, (A, A :: α) ∈ g.rules ∧ s ∈ firstOf first α ∧ s ≠ .epsilon := by
  constructor
  · intro hs
    rw [← contains_withRemainders hA]
    refine h.contains_follow h.firstClosed (h.followClosed_withRemainders hg h' hgrounded)
      (fun start hstart => ?_) hA hs
    exact (contains_withRemainders (hg.start_mem start hstart)).mpr (.inl (h'.start start hstart))
  · rintro (hs | ⟨α, hα, hs, hne⟩)
    · exact h.follow_eliminated_le hg h' hA hs
    · exact h.followClosed.contains_of_remainder hg hα hs hne

end Exact

/-- What an elimination does to the FIRST and FOLLOW sets of the old non-terminals. The tails are
told by the record of the elimination. -/
structure EliminatesSets (g r : Grammar) (removals : List Removal)
    (first follow first' follow' : SymbolSets) : Prop where
  subset : g.nonTerminals ⊆ r.nonTerminals
  first_eq : ∀ A ∈ g.nonTerminals, ∀ s, first'.contains A s = first.contains A s
  follow_le : ∀ A ∈ g.nonTerminals, ∀ s,
    follow'.contains A s = true → follow.contains A s = true
  exists_removal : ∀ A, g.DirectlyRecursive A → ∃ removal ∈ removals, removal.left = A
  recursive_removal : ∀ removal ∈ removals,
    removal.left ∈ g.nonTerminals ∧ g.DirectlyRecursive removal.left
  tail_new : ∀ removal ∈ removals,
    removal.tail ∈ r.nonTerminals ∧ removal.tail ∉ g.nonTerminals
  rules_tail : ∀ removal ∈ removals, ∀ a, (removal.tail, a) ∈ r.rules ↔ a = [.epsilon] ∨
    ∃ α, (removal.left, removal.left :: α) ∈ g.rules ∧
      a = Alternative.ofSequence (α ++ [removal.tail])
  rules_left : ∀ removal ∈ removals, ∀ a, (removal.left, a) ∈ r.rules ↔
    ∃ b, (removal.left, b) ∈ g.rules ∧ List.head? b ≠ some removal.left ∧
      a = Alternative.ofSequence (b ++ [removal.tail])
  follow_eq : g.Grounded → ∀ A ∈ g.nonTerminals, ¬ g.DirectlyRecursive A → ∀ s,
    follow'.contains A s = follow.contains A s
  follow_recursive : g.Grounded → ∀ removal ∈ removals, ∀ s,
    follow.contains removal.left s = true ↔ follow'.contains removal.left s = true ∨
      first'.contains removal.tail s = true ∧ s ≠ .epsilon

theorem WellFormed.exists_removes (hg : g.WellFormed) {removal : Removal}
    (h : removal ∈ g.elimination.removals) :
    ∃ p ∈ g.productions, p.left = removal.left ∧ g.elimination.Removes p removal.tail := by
  obtain ⟨p, hp, hleft, hremoves⟩ := exists_removes_of_mem_removals h
  exact ⟨p, hg.mem_productionsInOrder.mp hp, hleft, hremoves⟩

theorem Exact.eliminatesSets {first' follow' : SymbolSets} (hg : g.WellFormed)
    (h : g.Exact first follow) (h' : g.eliminated.Exact first' follow') :
    g.EliminatesSets g.eliminated g.elimination.removals first follow first' follow' where
  subset := nonTerminals_subset_eliminated g
  first_eq _ hA := h.first_eliminated hg h' hA
  follow_le _ hA _ := h.follow_eliminated_le hg h' hA
  exists_removal := by
    rintro A ⟨α, hα⟩
    rcases hg.mem_rules_of_eliminated hα with ⟨-, hhead⟩ | ⟨p, -, rfl, -, tail, hremoves⟩
    · exact absurd rfl hhead
    · exact ⟨_, hremoves.removal_mem, rfl⟩
  recursive_removal removal hremoval := by
    obtain ⟨p, hp, hleft, hremoves⟩ := hg.exists_removes hremoval
    obtain ⟨α, hα⟩ := List.exists_mem_of_ne_nil _ hremoves.recursive_ne_nil
    rw [← hleft]
    exact ⟨hg.left_mem p hp, α, (mem_recursive_iff hg hp).mp hα⟩
  tail_new removal hremoval := by
    obtain ⟨p, hp, -, hremoves⟩ := hg.exists_removes hremoval
    exact ⟨left_mem_eliminated hremoves.tailProduction_mem,
      fun hmem => (hg.mem_named_of_removes hp hremoves).1 (mem_nonTerminals.mp hmem).1⟩
  rules_tail removal hremoval a := by
    obtain ⟨p, hp, hleft, hremoves⟩ := hg.exists_removes hremoval
    rw [← hleft]
    exact mem_rules_tail_iff hg hp hremoves
  rules_left removal hremoval a := by
    obtain ⟨p, hp, hleft, hremoves⟩ := hg.exists_removes hremoval
    rw [← hleft]
    exact mem_rules_left_iff hg hp hremoves
  follow_eq hgrounded A hA hnot s := by
    rw [Bool.eq_iff_iff, h.follow_iff_withRemainders hg h' hgrounded hA, iff_self_or]
    exact fun ⟨α, hα, _⟩ => absurd ⟨α, hα⟩ hnot
  follow_recursive hgrounded removal hremoval s := by
    obtain ⟨p, hp, hleft, hremoves⟩ := hg.exists_removes hremoval
    rw [← hleft, h.follow_iff_withRemainders hg h' hgrounded (hg.left_mem p hp)]
    refine or_congr_right ?_
    by_cases hne : s = .epsilon
    · simp [hne]
    · rw [h.first_tail hg h' hp hremoves hne]
      simp [hne]

/-- However often a grammar has been factored since it was read, if it is valid and an elimination
is not refused, the elimination changes none of its FIRST sets and makes no FOLLOW set larger. If
the grammar is grounded, only the FOLLOW sets of the left-recursive non-terminals change, and each
of them by what its tail begins with. -/
theorem eliminatesSets_iterate_factor (lexing : Lexing) (text : String) (n : ℕ) {r : Grammar}
    {removals : List Removal}
    (hv : (Grammar.factor^[n] (load lexing text).1).validate = .ok ())
    (hr : (Grammar.factor^[n] (load lexing text).1).eliminate = .ok (r, removals)) :
    let g := Grammar.factor^[n] (load lexing text).1
    ∃ first follow first' follow', g.firstSets = .ok first ∧
      g.followSets first.value = .ok follow ∧ r.firstSets = .ok first' ∧
      r.followSets first'.value = .ok follow' ∧
      g.EliminatesSets r removals first.value follow.value first'.value follow'.value := by
  intro g
  have hg : g.WellFormed := (wellFormed_load lexing text).iterate_factor n
  have heq : g.eliminate = .ok (g.eliminated, g.elimination.removals) :=
    eliminate_eq_of_indirectCycle? (indirectCycle?_of_eliminate hr)
  obtain ⟨rfl, rfl⟩ : g.eliminated = r ∧ g.elimination.removals = removals := by
    simpa using heq.symm.trans hr
  have hv' : g.eliminated.validate = .ok () := by
    obtain ⟨hstart, hcomplete⟩ := validate_eq_ok_iff.mp hv
    exact validate_eq_ok_iff.mpr ⟨hstart, hcomplete.eliminated hg⟩
  obtain ⟨first, follow, hfirst, hfollow, h⟩ := hg.exists_exact hv
  obtain ⟨first', follow', hfirst', hfollow', h'⟩ := hg.eliminated.exists_exact hv'
  exact ⟨first, follow, first', follow', hfirst, hfollow, hfirst', hfollow',
    h.eliminatesSets hg h'⟩

theorem grounded_of_all (h : (g.rules.all fun r => List.head? r.2 != some r.1 ||
    g.rules.any fun r' => r'.1 == r.1 && List.head? r'.2 != some r.1) = true) : g.Grounded := by
  rintro A ⟨α, hα⟩
  have hsome := List.all_eq_true.mp h _ hα
  simp only [List.head?_cons, bne_self_eq_false, Bool.false_or, List.any_eq_true,
    Bool.and_eq_true, beq_iff_eq, bne_iff_ne] at hsome
  obtain ⟨⟨left, b⟩, hb, rfl, hhead⟩ := hsome
  exact ⟨b, hb, hhead⟩

/-- Two left-recursive non-terminals. An alternative of the one ends in the other, which vanishes,
and a remainder begins with a symbol that can vanish. -/
theorem eliminatesSets_iterate_factor_vanishing :
    let g := Grammar.factor^[1] (load .compact "E -> E A b | x T\nT -> T c | ε\nA -> a | ε").1
    g.validate = .ok () ∧ g.eliminate = .ok (g.eliminated, g.elimination.removals) ∧
      g.Grounded ∧ g.DirectlyRecursive (.nonTerminal "E") ∧
      ∃ first follow first' follow', g.firstSets = .ok first ∧
        g.followSets first.value = .ok follow ∧ g.eliminated.firstSets = .ok first' ∧
        g.eliminated.followSets first'.value = .ok follow' ∧
        g.EliminatesSets g.eliminated g.elimination.removals first.value follow.value
          first'.value follow'.value := by
  have hv : (Grammar.factor^[1]
      (load .compact "E -> E A b | x T\nT -> T c | ε\nA -> a | ε").1).validate = .ok () := by cbv
  have hnone : (Grammar.factor^[1]
      (load .compact "E -> E A b | x T\nT -> T c | ε\nA -> a | ε").1).indirectCycle? = none := by
    cbv
  have hall : ((Grammar.factor^[1]
      (load .compact "E -> E A b | x T\nT -> T c | ε\nA -> a | ε").1).rules.all fun r =>
        List.head? r.2 != some r.1 || (Grammar.factor^[1]
          (load .compact "E -> E A b | x T\nT -> T c | ε\nA -> a | ε").1).rules.any fun r' =>
            r'.1 == r.1 && List.head? r'.2 != some r.1) = true := by cbv
  have hrule : (Grammar.factor^[1]
      (load .compact "E -> E A b | x T\nT -> T c | ε\nA -> a | ε").1).rules.contains
        (.nonTerminal "E", [.nonTerminal "E", .nonTerminal "A", .terminal "b"]) = true := by cbv
  intro g
  have heliminate := eliminate_eq_of_indirectCycle? hnone
  exact ⟨hv, heliminate, grounded_of_all hall, ⟨_, List.contains_iff_mem.mp hrule⟩,
    eliminatesSets_iterate_factor .compact _ 1 hv heliminate⟩

end Grammar

end Predictive
