import Predictive.Proofs.Grammar.Prepared
import Predictive.Proofs.Saturation
import Predictive.Proofs.Sets.Basic
import Predictive.Sets.First

/-!
# What FIRST says about derivations

`CanBegin α s` says that a form derived from `α` can begin with the terminal `s`, and for `ε` that
`α` derives the empty form. FIRST holds exactly these symbols (`mem_firstOf_iff`).

That it holds no others is an invariant of every update, so it is true of every state of the search.
That it holds all of them needs the end of the search: there the sets are closed under the rules,
and closed sets lose nothing when a derivation is read backwards, one step after another
(`mem_firstOf_of_rewrites`). Which non-terminals vanish, in which order, and whether they derive any
word at all makes no difference to this.
-/

namespace Predictive

theorem firstOf_visible (first : SymbolSets) (α : List Symbol) :
    firstOf first (visible α) = firstOf first α := by
  induction α with
  | nil => rfl
  | cons s α ih =>
      cases s with
      | epsilon => exact ih
      | endMarker => rfl
      | terminal name => rfl
      | nonTerminal name => rw [visible_cons (by simp), firstOf, firstOf, ih]

theorem firstOf_cons_of_isNonTerminal_eq_false (first : SymbolSets) {s : Symbol}
    (hs : s.isNonTerminal = false) (hne : s ≠ .epsilon) (rest : List Symbol) :
    firstOf first (s :: rest) = [s] := by
  cases s with
  | epsilon => exact absurd rfl hne
  | endMarker => rfl
  | terminal name => rfl
  | nonTerminal name => cases hs

/-- What stands behind a set is taken in where the set has `ε`. -/
theorem mem_ite_contains_epsilon {own rest : List Symbol} {s : Symbol} :
    s ∈ (if own.contains .epsilon then union (withoutEpsilon own) rest else withoutEpsilon own) ↔
      s ∈ own ∧ s ≠ .epsilon ∨ .epsilon ∈ own ∧ s ∈ rest := by
  split
  · next h => rw [mem_union, mem_withoutEpsilon, and_iff_right (List.contains_iff_mem.mp h)]
  · next h =>
      rw [mem_withoutEpsilon, or_iff_left]
      exact fun hmem => h (List.contains_iff_mem.mpr hmem.1)

theorem mem_firstOf_nonTerminal {first : SymbolSets} {name : String} {rest : List Symbol}
    {s : Symbol} :
    s ∈ firstOf first (.nonTerminal name :: rest) ↔
      first.contains (.nonTerminal name) s = true ∧ s ≠ .epsilon ∨
        first.contains (.nonTerminal name) .epsilon = true ∧ s ∈ firstOf first rest := by
  rw [firstOf, SymbolSets.contains_iff, SymbolSets.contains_iff]
  exact mem_ite_contains_epsilon

theorem mem_firstOf_singleton {first : SymbolSets} {name : String} {s : Symbol} :
    s ∈ firstOf first [.nonTerminal name] ↔ first.contains (.nonTerminal name) s = true := by
  rw [mem_firstOf_nonTerminal, firstOf_nil, List.mem_singleton]
  constructor
  · rintro (⟨h, -⟩ | ⟨h, rfl⟩)
    · exact h
    · exact h
  · intro h
    by_cases hs : s = .epsilon
    · exact .inr ⟨hs ▸ h, hs⟩
    · exact .inl ⟨h, hs⟩

/-- The second part of a sequence is seen only where the first one vanishes. -/
theorem mem_firstOf_append {first : SymbolSets} {α β : List Symbol} {s : Symbol} :
    s ∈ firstOf first (α ++ β) ↔
      s ∈ firstOf first α ∧ s ≠ .epsilon ∨ .epsilon ∈ firstOf first α ∧ s ∈ firstOf first β := by
  induction α with
  | nil => simp [firstOf_nil]
  | cons x α ih =>
      cases x with
      | epsilon => exact ih
      | endMarker => simp +contextual [firstOf]
      | terminal name => simp +contextual [firstOf]
      | nonTerminal name =>
          rw [List.cons_append, mem_firstOf_nonTerminal, mem_firstOf_nonTerminal,
            mem_firstOf_nonTerminal, ih]
          tauto

theorem mem_firstOf_mono {a b : SymbolSets} (h : a ≤ b) {α : List Symbol} {s : Symbol}
    (hs : s ∈ firstOf a α) : s ∈ firstOf b α := by
  induction α with
  | nil => exact hs
  | cons x α ih =>
      cases x with
      | epsilon => exact ih hs
      | endMarker => exact hs
      | terminal name => exact hs
      | nonTerminal name =>
          rw [mem_firstOf_nonTerminal] at hs ⊢
          exact hs.imp (fun hs => ⟨h _ _ hs.1, hs.2⟩) fun hs => ⟨h _ _ hs.1, ih hs.2⟩

def firstSet (first : SymbolSets) (α : List Symbol) : Set Symbol :=
  {s | s ∈ firstOf first α}

theorem firstSet_append (first : SymbolSets) (α β : List Symbol) :
    firstSet first (α ++ β) =
      if .epsilon ∈ firstOf first α then (firstSet first α \ {.epsilon}) ∪ firstSet first β
      else firstSet first α := by
  ext s
  by_cases hvanishes : .epsilon ∈ firstOf first α
  · simp [firstSet, mem_firstOf_append, hvanishes]
  · have hne : s ∈ firstOf first α → s ≠ .epsilon := fun hs heq => hvanishes (heq ▸ hs)
    simpa [firstSet, mem_firstOf_append, hvanishes] using hne

/-- Whatever the sets are, of a finished search or not: FIRST of a sequence is made of the FIRST of
its parts, `ε` in between makes no difference to it, and larger sets make it no smaller. -/
theorem firstSet_append_visible_mono (first : SymbolSets) (α β : List Symbol) :
    firstSet first (α ++ β) =
        (if .epsilon ∈ firstOf first α then (firstSet first α \ {.epsilon}) ∪ firstSet first β
          else firstSet first α) ∧
      (visible α = visible β → firstSet first α = firstSet first β) ∧
      ∀ larger, first ≤ larger → firstSet first α ⊆ firstSet larger α := by
  refine ⟨firstSet_append first α β, fun hvisible => ?_, fun larger h s hs => mem_firstOf_mono h hs⟩
  rw [firstSet, firstSet, ← firstOf_visible first α, hvisible, firstOf_visible]

/-- The sets before and after a pass that is not the last one. `A` vanishes only in the latter. -/
theorem firstSet_append_visible_mono_pass :
    let g := (Grammar.load .compact "S -> A S | A b\nA -> a | ε").1
    let start := SymbolSets.ofKeys g.nonTerminals
    let pass := (g.firstPass start).1
    let α : List Symbol := [.nonTerminal "A", .epsilon]
    let β : List Symbol := [.epsilon, .nonTerminal "A"]
    visible α = visible β ∧ start ≤ pass ∧ firstSet start α = firstSet start β ∧
      firstSet start α ⊆ firstSet pass α ∧
      firstSet pass (α ++ β) = (firstSet pass α \ {.epsilon}) ∪ firstSet pass β := by
  have hvanishes : (firstOf ((Grammar.load .compact "S -> A S | A b\nA -> a | ε").1.firstPass
      (SymbolSets.ofKeys (Grammar.load .compact "S -> A S | A b\nA -> a | ε").1.nonTerminals)).1
      [.nonTerminal "A", .epsilon]).contains .epsilon = true := by cbv
  intro g start pass α β
  have hle : start ≤ pass := (g.grows_firstPass start).le
  obtain ⟨-, hvisible, hmono⟩ := firstSet_append_visible_mono start α β
  obtain ⟨happend, -⟩ := firstSet_append_visible_mono pass α β
  rw [if_pos (List.contains_iff_mem.mp hvanishes)] at happend
  exact ⟨rfl, hle, hvisible rfl, hmono pass hle, happend⟩

namespace Grammar

variable {g : Grammar}

theorem mem_firstOf_congr_of_named {a b : SymbolSets}
    (h : ∀ A ∈ g.nonTerminals, ∀ s, a.contains A s = true ↔ b.contains A s = true)
    {α : List Symbol} (hα : ∀ s ∈ α, s = .epsilon ∨ s ∈ g.symbols.named) {s : Symbol} :
    s ∈ firstOf a α ↔ s ∈ firstOf b α := by
  induction α with
  | nil => rfl
  | cons x α ih =>
      have hrest := ih fun t ht => hα t (List.mem_cons_of_mem x ht)
      cases x with
      | epsilon => exact hrest
      | endMarker => rfl
      | terminal name => rfl
      | nonTerminal name =>
          have hown := h (.nonTerminal name) (mem_nonTerminals.mpr
            ⟨(hα _ List.mem_cons_self).resolve_left (by simp), rfl⟩)
          rw [mem_firstOf_nonTerminal, mem_firstOf_nonTerminal, hown, hown, hrest]

/-- What a form derived from a sequence can begin with; for `ε`, whether it can be empty. -/
def CanBegin (g : Grammar) (α : List Symbol) : Symbol → Prop
  | .epsilon => g.Derives (visible α) []
  | .terminal name => ∃ β, g.Derives (visible α) (.terminal name :: β)
  | _ => False

namespace CanBegin

theorem append_right {α : List Symbol} {s : Symbol} (h : g.CanBegin α s) (hs : s ≠ .epsilon)
    (γ : List Symbol) : g.CanBegin (α ++ γ) s := by
  cases s with
  | terminal name =>
      obtain ⟨β, hβ⟩ := h
      refine ⟨β ++ visible γ, ?_⟩
      rw [visible_append]
      exact hβ.append (.refl g _)
  | epsilon => exact absurd rfl hs
  | endMarker => exact h
  | nonTerminal name => exact h

theorem append_left {α : List Symbol} {s : Symbol} (h : g.CanBegin α s) {γ : List Symbol}
    (hγ : g.Derives (visible γ) []) : g.CanBegin (γ ++ α) s := by
  cases s with
  | epsilon =>
      change g.Derives _ _
      rw [visible_append]
      exact hγ.append h
  | terminal name =>
      obtain ⟨β, hβ⟩ := h
      refine ⟨β, ?_⟩
      rw [visible_append]
      exact hγ.append hβ
  | endMarker => exact h
  | nonTerminal name => exact h

theorem of_rule {name : String} {a : Alternative} (hrule : (.nonTerminal name, a) ∈ g.rules)
    {s : Symbol} (h : g.CanBegin a s) : g.CanBegin [.nonTerminal name] s := by
  cases s with
  | epsilon => exact (Derives.of_rule hrule).trans h
  | terminal t =>
      obtain ⟨β, hβ⟩ := h
      exact ⟨β, (Derives.of_rule hrule).trans hβ⟩
  | endMarker => exact h
  | nonTerminal name => exact h

end CanBegin

theorem WellFormed.mem_named_of_rewrites (hg : g.WellFormed) {α β : List Symbol}
    (h : g.Rewrites α β) (hα : ∀ s ∈ α, s ∈ g.symbols.named) : ∀ s ∈ β, s ∈ g.symbols.named := by
  cases h with
  | expand before after hrule =>
      intro s hs
      rcases List.mem_append.mp hs with hs | hs
      · exact hα s (List.mem_append_left _ hs)
      · rcases List.mem_append.mp hs with hs | hs
        · obtain ⟨hmem, hne⟩ := mem_visible.mp hs
          exact (hg.mem_named _ hrule s hmem).resolve_left hne
        · exact hα s (List.mem_append_right _ (List.mem_cons_of_mem _ hs))

/-- A derivation brings no symbol in that is not in the table. -/
theorem WellFormed.mem_named_of_derives (hg : g.WellFormed) {α β : List Symbol}
    (h : g.Derives α β) (hα : ∀ s ∈ α, s ∈ g.symbols.named) : ∀ s ∈ β, s ∈ g.symbols.named := by
  induction h with
  | refl => exact hα
  | tail _ hstep ih => exact hg.mem_named_of_rewrites hstep ih

theorem CanBegin.mem_terminals (hg : g.WellFormed) {α : List Symbol} {s : Symbol}
    (h : g.CanBegin α s) (hα : ∀ s ∈ α, s = .epsilon ∨ s ∈ g.symbols.named)
    (hs : s ≠ .epsilon) : s ∈ g.terminals := by
  cases s with
  | terminal name =>
      obtain ⟨β, hβ⟩ := h
      have hvisible : ∀ s ∈ visible α, s ∈ g.symbols.named := fun s hs =>
        (hα s (mem_visible.mp hs).1).resolve_left (mem_visible.mp hs).2
      have hnamed := hg.mem_named_of_derives hβ hvisible _ List.mem_cons_self
      exact SymbolTable.mem_terminals.mpr ⟨hnamed, rfl⟩
  | epsilon => exact absurd rfl hs
  | endMarker => exact h.elim
  | nonTerminal name => exact h.elim

/-! ### No symbol too many -/

def FirstSound (g : Grammar) (first : SymbolSets) : Prop :=
  ∀ k s, first.contains k s = true → g.CanBegin [k] s

theorem FirstSound.mem_firstOf {first : SymbolSets} (h : g.FirstSound first) {α : List Symbol}
    (hα : .endMarker ∉ α) {s : Symbol} (hs : s ∈ firstOf first α) : g.CanBegin α s := by
  induction α with
  | nil =>
      rw [firstOf_nil, List.mem_singleton] at hs
      subst hs
      exact .refl g []
  | cons x α ih =>
      have hrest := ih fun hmem => hα (List.mem_cons_of_mem x hmem)
      cases x with
      | epsilon =>
          have hnil : g.Derives (visible [.epsilon]) [] := .refl g []
          exact (hrest hs).append_left hnil
      | endMarker => exact absurd List.mem_cons_self hα
      | terminal name =>
          rw [firstOf, List.mem_singleton] at hs
          subst hs
          exact ⟨visible α, .refl g _⟩
      | nonTerminal name =>
          rcases mem_firstOf_nonTerminal.mp hs with ⟨hown, hne⟩ | ⟨hvanishes, hs⟩
          · exact (h _ _ hown).append_right hne α
          · exact (hrest hs).append_left (h _ _ hvanishes)

theorem WellFormed.endMarker_notMem (h : g.WellFormed) {r : Symbol × Alternative}
    (hr : r ∈ g.rules) : .endMarker ∉ r.2 := by
  intro hmem
  rcases h.mem_named r hr _ hmem with heq | hnamed
  · cases heq
  · exact (h.symbols.nameable _ hnamed).ne_endMarker rfl

theorem FirstSound.firstUpdate (hg : g.WellFormed) {first : SymbolSets} (h : g.FirstSound first)
    {r : Symbol × Alternative} (hr : r ∈ g.rules) : g.FirstSound (firstUpdate r first).1 := by
  intro k s hks
  rcases (SymbolSets.contains_extend _ _ _ _ _).mp hks with hold | ⟨rfl, hnew⟩
  · exact h k s hold
  · obtain ⟨name, hname⟩ := hg.exists_left_eq hr
    have hbegin := h.mem_firstOf (hg.endMarker_notMem hr) hnew
    rw [hname]
    exact hbegin.of_rule (hname ▸ hr)

theorem FirstSound.firstFrom (hg : g.WellFormed) {start : SymbolSets} (h : g.FirstSound start) :
    g.FirstSound (g.firstFrom start).value :=
  untilStable_of_step _ _ _ _
    (fun _ hfirst => sweep_of_update (fun _ hr _ hsets => hsets.firstUpdate hg hr)
      hfirst)
    h

/-! ### No symbol missing -/

def FirstClosed (g : Grammar) (first : SymbolSets) : Prop :=
  ∀ left a, (left, a) ∈ g.rules → ∀ s ∈ firstOf first a, first.contains left s = true

theorem firstUpdate_mono (r : Symbol × Alternative) {a b : SymbolSets} (h : a ≤ b) :
    (firstUpdate r a).1 ≤ (firstUpdate r b).1 := by
  intro k s hks
  rw [firstUpdate, SymbolSets.contains_extend] at hks ⊢
  exact hks.imp (h k s) fun hks => ⟨hks.1, mem_firstOf_mono h hks.2⟩

theorem firstClosed_firstPass {first : SymbolSets} (h : (g.firstPass first).2 = false) :
    g.FirstClosed (g.firstPass first).1 := by
  intro left a hr s hs
  have hle := SymbolSets.update_sweep_le grows_firstUpdate (fun r _ _ => firstUpdate_mono r) h hr
  exact hle left s ((SymbolSets.contains_extend _ _ _ _ _).mpr (.inr ⟨rfl, hs⟩))

theorem exists_firstPass_iterate_eq (g : Grammar) (start : SymbolSets) :
    ∃ n, g.firstPass ((fun first => (g.firstPass first).1)^[n] start) =
      ((g.firstFrom start).value, false) :=
  exists_step_iterate_eq _ _ _ _

theorem firstClosed_firstFrom (g : Grammar) (start : SymbolSets) :
    g.FirstClosed (g.firstFrom start).value := by
  obtain ⟨n, hn⟩ := g.exists_firstPass_iterate_eq start
  have hclosed := firstClosed_firstPass (congrArg Prod.snd hn)
  rwa [hn] at hclosed

/-- Reading a step backwards loses no symbol. -/
theorem FirstClosed.mem_firstOf_of_rewrites {first : SymbolSets} (h : g.FirstClosed first)
    {α β : List Symbol} (hstep : g.Rewrites α β) {s : Symbol} (hs : s ∈ firstOf first β) :
    s ∈ firstOf first α := by
  cases hstep with
  | @expand before after name a hrule =>
      have hinner : s ∈ firstOf first (visible a ++ after) →
          s ∈ firstOf first (.nonTerminal name :: after) := by
        rw [mem_firstOf_append, firstOf_visible, mem_firstOf_nonTerminal]
        exact Or.imp (fun hs => ⟨h _ a hrule s hs.1, hs.2⟩) fun hs => ⟨h _ a hrule _ hs.1, hs.2⟩
      rw [mem_firstOf_append] at hs ⊢
      exact hs.imp_right fun hs => ⟨hs.1, hinner hs.2⟩

theorem FirstClosed.mem_firstOf_of_derives {first : SymbolSets} (h : g.FirstClosed first)
    {α β : List Symbol} (hderives : g.Derives α β) {s : Symbol} (hs : s ∈ firstOf first β) :
    s ∈ firstOf first α := by
  induction hderives using Relation.ReflTransGen.head_induction_on with
  | refl => exact hs
  | head hstep _ ih => exact h.mem_firstOf_of_rewrites hstep ih

theorem FirstClosed.mem_firstOf_of_canBegin {first : SymbolSets} (h : g.FirstClosed first)
    {α : List Symbol} {s : Symbol} (hs : g.CanBegin α s) : s ∈ firstOf first α := by
  rw [← firstOf_visible]
  cases s with
  | epsilon => exact h.mem_firstOf_of_derives hs List.mem_cons_self
  | terminal name =>
      obtain ⟨β, hβ⟩ := hs
      exact h.mem_firstOf_of_derives hβ List.mem_cons_self
  | endMarker => exact hs.elim
  | nonTerminal name => exact hs.elim

/-! ### The FIRST sets of a grammar -/

theorem firstSound_ofKeys (g : Grammar) (keys : List Symbol) : g.FirstSound (.ofKeys keys) := by
  intro k s hks
  rw [SymbolSets.contains_ofKeys] at hks
  cases hks

theorem mem_firstOf_iff (hg : g.WellFormed) (keys : List Symbol) {α : List Symbol}
    (hα : .endMarker ∉ α) {s : Symbol} :
    s ∈ firstOf (g.firstFrom (.ofKeys keys)).value α ↔ g.CanBegin α s :=
  ⟨((g.firstSound_ofKeys keys).firstFrom hg).mem_firstOf hα,
    (g.firstClosed_firstFrom _).mem_firstOf_of_canBegin⟩

theorem firstSets_of_validate (hv : g.validate = .ok ()) :
    g.firstSets = .ok (g.firstFrom (.ofKeys g.nonTerminals)) := by
  rw [firstSets, hv]
  rfl

/-- FIRST is what forms can begin with: for every non-terminal, and for every sequence of symbols
other than the end marker. -/
theorem firstSets_canBegin_iff {g : Grammar} (hg : g.Prepared) (hv : g.validate = .ok ()) :
    ∃ first, g.firstSets = .ok first ∧
      (∀ A ∈ g.nonTerminals, ∀ s, first.value.contains A s = true ↔ g.CanBegin [A] s) ∧
      ∀ α, .endMarker ∉ α → ∀ s, s ∈ firstOf first.value α ↔ g.CanBegin α s := by
  refine ⟨_, firstSets_of_validate hv, ?_, fun α hα s => mem_firstOf_iff hg.wellFormed _ hα⟩
  intro A hA s
  have hkind := (mem_nonTerminals.mp hA).2
  cases A with
  | nonTerminal name =>
      rw [← mem_firstOf_singleton]
      exact mem_firstOf_iff hg.wellFormed _ (by simp)
  | epsilon => cases hkind
  | endMarker => cases hkind
  | terminal name => cases hkind

/-- Both non-terminals vanish, and each can begin with the other. -/
theorem firstSets_canBegin_iff_cycle :
    (load .compact "S -> A b | ε\nA -> S a | ε").1.validate = .ok () ∧
      ∃ first, (load .compact "S -> A b | ε\nA -> S a | ε").1.firstSets = .ok first ∧
        (∀ A ∈ (load .compact "S -> A b | ε\nA -> S a | ε").1.nonTerminals, ∀ s,
          first.value.contains A s = true ↔
            (load .compact "S -> A b | ε\nA -> S a | ε").1.CanBegin [A] s) ∧
        ∀ α, .endMarker ∉ α → ∀ s, s ∈ firstOf first.value α ↔
          (load .compact "S -> A b | ε\nA -> S a | ε").1.CanBegin α s := by
  have hvalidate : (load .compact "S -> A b | ε\nA -> S a | ε").1.validate = .ok () := by cbv
  exact ⟨hvalidate, firstSets_canBegin_iff (.load .compact _) hvalidate⟩

end Grammar

end Predictive
