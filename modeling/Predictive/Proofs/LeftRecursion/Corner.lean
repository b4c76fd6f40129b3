import Predictive.LeftRecursion.Cycle
import Predictive.Proofs.Language
import Predictive.Proofs.LeftRecursion.Nullable

/-!
# Left corners and derivations

A symbol leads a sequence when all symbols before it vanish. It is a left corner of `X` when it
leads an alternative of `X`, and an indirect one unless this only says that the alternative begins
with `X` itself.

A left corner of `X` comes to the front of a form that is derived from `X`, because the symbols
before it can be made to vanish. The other direction is told backwards along a derivation: what
leads a form was led to by the form before, or it is a left corner of what did
(`exists_leads_of_derives`). So a non-terminal derives a form that begins with itself exactly when
it reaches itself through left corners (`WellFormed.transGen_leftCorner_iff`).
-/

namespace Predictive

namespace Grammar

/-- The symbol stands in the sequence behind symbols that all vanish. -/
def Leads (g : Grammar) (α : List Symbol) (Y : Symbol) : Prop :=
  ∃ before after, α = before ++ Y :: after ∧ ∀ s ∈ before, g.Vanishes s

def LeftCorner (g : Grammar) (X Y : Symbol) : Prop :=
  ∃ a, (X, a) ∈ g.rules ∧ g.Leads a Y

/-- The symbol leads some alternative of `X`, and not only because it begins with `X`. -/
def IndirectCorner (g : Grammar) (X Y : Symbol) : Prop :=
  ∃ before after, (X, before ++ Y :: after) ∈ g.rules ∧ (∀ s ∈ before, g.Vanishes s) ∧
    (before = [] → Y ≠ X)

variable {g : Grammar}

/-! ### Leading symbols -/

theorem not_leads_nil (g : Grammar) (Y : Symbol) : ¬ g.Leads [] Y := by
  rintro ⟨before, after, h, -⟩
  simp at h

theorem leads_cons_iff {s Y : Symbol} {α : List Symbol} :
    g.Leads (s :: α) Y ↔ Y = s ∨ g.Vanishes s ∧ g.Leads α Y := by
  constructor
  · rintro ⟨before, after, h, hbefore⟩
    cases before with
    | nil =>
        cases h
        exact .inl rfl
    | cons x before =>
        cases h
        obtain ⟨hx, hbefore⟩ := List.forall_mem_cons.mp hbefore
        exact .inr ⟨hx, before, after, rfl, hbefore⟩
  · rintro (rfl | ⟨hs, before, after, rfl, hbefore⟩)
    · exact ⟨[], α, rfl, by simp⟩
    · exact ⟨s :: before, after, rfl, List.forall_mem_cons.mpr ⟨hs, hbefore⟩⟩

theorem Leads.mem {α : List Symbol} {Y : Symbol} (h : g.Leads α Y) : Y ∈ α := by
  obtain ⟨before, after, rfl, -⟩ := h
  simp

theorem leads_append_iff {α β : List Symbol} {Y : Symbol} :
    g.Leads (α ++ β) Y ↔ g.Leads α Y ∨ (∀ s ∈ α, g.Vanishes s) ∧ g.Leads β Y := by
  induction α with
  | nil => simp [not_leads_nil]
  | cons s α ih =>
      rw [List.cons_append, leads_cons_iff, leads_cons_iff, ih, List.forall_mem_cons]
      tauto

theorem leads_visible_iff {α : List Symbol} {Y : Symbol} (hY : Y ≠ .epsilon) :
    g.Leads (visible α) Y ↔ g.Leads α Y := by
  induction α with
  | nil => rfl
  | cons s α ih =>
      by_cases hs : s = .epsilon
      · rw [hs, visible_epsilon, ih, leads_cons_iff]
        simp [hY, vanishes_epsilon]
      · rw [visible_cons hs, leads_cons_iff, leads_cons_iff, ih]

theorem leads_ofSequence_iff {α : List Symbol} {Y : Symbol} (hY : Y ≠ .epsilon) :
    g.Leads (Alternative.ofSequence α) Y ↔ g.Leads α Y := by
  rw [← leads_visible_iff hY, visible_ofSequence, leads_visible_iff hY]

theorem leads_of_leads_visible {α : List Symbol} {Y : Symbol} (h : g.Leads (visible α) Y) :
    g.Leads α Y :=
  (leads_visible_iff (mem_visible.mp h.mem).2).mp h

/-! ### Change of the grammar -/

theorem Keeps.vanishes_iff {r : Grammar} (h : g.Keeps r) {s : Symbol}
    (hs : s = .epsilon ∨ s ∈ g.symbols.named) : r.Vanishes s ↔ g.Vanishes s := by
  by_cases heq : s = .epsilon
  · rw [heq]
    exact iff_of_true (vanishes_epsilon r) (vanishes_epsilon g)
  · cases hkind : s.isNonTerminal with
    | false =>
        exact iff_of_false (not_vanishes_of_isNonTerminal_eq_false hkind heq)
          (not_vanishes_of_isNonTerminal_eq_false hkind heq)
    | true =>
        have hmem : s ∈ g.nonTerminals := mem_nonTerminals.mpr ⟨hs.resolve_left heq, hkind⟩
        have hwords := h.generates_iff s hmem []
        rw [Vanishes, Vanishes, visible_cons heq]
        exact hwords

theorem Keeps.leads_iff {r : Grammar} (h : g.Keeps r) {α : List Symbol} {Y : Symbol}
    (hα : ∀ s ∈ α, s = .epsilon ∨ s ∈ g.symbols.named) : r.Leads α Y ↔ g.Leads α Y := by
  induction α with
  | nil => simp [not_leads_nil]
  | cons s α ih =>
      obtain ⟨hs, hα⟩ := List.forall_mem_cons.mp hα
      rw [leads_cons_iff, leads_cons_iff, h.vanishes_iff hs, ih hα]

/-! ### Left corners -/

theorem LeftCorner.left_mem (hg : g.WellFormed) {X Y : Symbol} (h : g.LeftCorner X Y) :
    X ∈ g.nonTerminals := by
  obtain ⟨a, hrule, -⟩ := h
  exact hg.left_mem_of_rule hrule

theorem LeftCorner.exists_left_eq (hg : g.WellFormed) {X Y : Symbol} (h : g.LeftCorner X Y) :
    ∃ name, X = .nonTerminal name :=
  exists_eq_of_mem_nonTerminals (h.left_mem hg)

theorem LeftCorner.left_ne_epsilon (hg : g.WellFormed) {X Y : Symbol} (h : g.LeftCorner X Y) :
    X ≠ .epsilon := by
  obtain ⟨name, rfl⟩ := h.exists_left_eq hg
  simp

theorem IndirectCorner.leftCorner {X Y : Symbol} (h : g.IndirectCorner X Y) :
    g.LeftCorner X Y := by
  obtain ⟨before, after, hrule, hbefore, -⟩ := h
  exact ⟨_, hrule, before, after, rfl, hbefore⟩

theorem indirectCorner_of_leads {X Y : Symbol} {a : Alternative} (hrule : (X, a) ∈ g.rules)
    (hhead : List.head? a ≠ some X) (h : g.Leads a Y) : g.IndirectCorner X Y := by
  obtain ⟨before, after, rfl, hbefore⟩ := h
  refine ⟨before, after, hrule, hbefore, ?_⟩
  rintro rfl rfl
  exact hhead rfl

theorem indirectCorner_of_recursive {X Y : Symbol} {α : List Symbol}
    (hrule : (X, X :: α) ∈ g.rules) (hX : g.Vanishes X) (h : g.Leads α Y) :
    g.IndirectCorner X Y := by
  obtain ⟨before, after, rfl, hbefore⟩ := h
  exact ⟨X :: before, after, hrule, List.forall_mem_cons.mpr ⟨hX, hbefore⟩, by simp⟩

/-- The two ways to be an indirect left corner. -/
theorem indirectCorner_iff {X Y : Symbol} :
    g.IndirectCorner X Y ↔ ∃ a, (X, a) ∈ g.rules ∧
      (List.head? a ≠ some X ∧ g.Leads a Y ∨
        ∃ α, a = X :: α ∧ g.Vanishes X ∧ g.Leads α Y) := by
  constructor
  · rintro ⟨before, after, hrule, hbefore, hne⟩
    refine ⟨_, hrule, ?_⟩
    by_cases hhead : List.head? (before ++ Y :: after) = some X
    · cases before with
      | nil => exact absurd (Option.some.inj hhead) (hne rfl)
      | cons x before =>
          obtain rfl : x = X := Option.some.inj hhead
          obtain ⟨hx, hbefore⟩ := List.forall_mem_cons.mp hbefore
          exact .inr ⟨before ++ Y :: after, rfl, hx, before, after, rfl, hbefore⟩
    · exact .inl ⟨hhead, before, after, rfl, hbefore⟩
  · rintro ⟨a, hrule, ⟨hhead, h⟩ | ⟨α, rfl, hX, h⟩⟩
    · exact indirectCorner_of_leads hrule hhead h
    · exact indirectCorner_of_recursive hrule hX h

/-! ### Forms that begin with their own left side -/

theorem LeftCorner.exists_transGen (hg : g.WellFormed) {X Y : Symbol} (h : g.LeftCorner X Y)
    (hY : Y ≠ .epsilon) : ∃ γ, Relation.TransGen g.Rewrites [X] (Y :: γ) := by
  obtain ⟨name, rfl⟩ := h.exists_left_eq hg
  obtain ⟨a, hrule, before, after, rfl, hbefore⟩ := h
  have hstep := Rewrites.expand (g := g) [] [] hrule
  have hvanish : g.Derives (visible before) [] := derives_nil_iff_forall_vanishes.mpr hbefore
  have hrest := hvanish.append (.refl g (Y :: visible after))
  refine ⟨visible after, Relation.TransGen.head' hstep ?_⟩
  rw [visible_append, visible_cons hY, List.nil_append, List.append_nil]
  exact hrest

theorem exists_transGen_of_leftCorners (hg : g.WellFormed) {X Y : Symbol}
    (h : Relation.TransGen g.LeftCorner X Y) (hY : Y ≠ .epsilon) :
    ∃ γ, Relation.TransGen g.Rewrites [X] (Y :: γ) := by
  induction h with
  | single h => exact h.exists_transGen hg hY
  | @tail Y Z _ hYZ ih =>
      obtain ⟨γ, hγ⟩ := ih (hYZ.left_ne_epsilon hg)
      obtain ⟨δ, hδ⟩ := hYZ.exists_transGen hg hY
      have hlift : Relation.TransGen g.Rewrites ([Y] ++ γ) (Z :: δ ++ γ) :=
        Relation.TransGen.lift (p := g.Rewrites) (· ++ γ)
          (fun _ _ h => Rewrites.append_right h γ) _ _ hδ
      exact ⟨δ ++ γ, hγ.trans hlift⟩

/-- One step back: what leads the form after it led the form before, or is a left corner of what
did. -/
theorem exists_leads_of_rewrites {α β : List Symbol} {Z : Symbol} (hstep : g.Rewrites α β)
    (h : g.Leads β Z) : g.Leads α Z ∨ ∃ X, g.Leads α X ∧ g.LeftCorner X Z := by
  cases hstep with
  | @expand before after name a hrule =>
      rcases leads_append_iff.mp h with hbefore | ⟨hbefore, h⟩
      · exact .inl (leads_append_iff.mpr (.inl hbefore))
      · rcases leads_append_iff.mp h with ha | ⟨ha, hafter⟩
        · right
          refine ⟨.nonTerminal name, ?_, a, hrule, leads_of_leads_visible ha⟩
          exact leads_append_iff.mpr (.inr ⟨hbefore, leads_cons_iff.mpr (.inl rfl)⟩)
        · left
          have hname : g.Vanishes (.nonTerminal name) :=
            vanishes_of_rule hrule (forall_vanishes_visible.mp ha)
          exact leads_append_iff.mpr
            (.inr ⟨hbefore, leads_cons_iff.mpr (.inr ⟨hname, hafter⟩)⟩)

theorem exists_leads_of_derives {α β : List Symbol} {Z : Symbol} (hderives : g.Derives α β)
    (h : g.Leads β Z) : ∃ X, g.Leads α X ∧ Relation.ReflTransGen g.LeftCorner X Z := by
  induction hderives using Relation.ReflTransGen.head_induction_on with
  | refl => exact ⟨Z, h, .refl⟩
  | head hstep _ ih =>
      obtain ⟨Y, hY, hYZ⟩ := ih
      rcases exists_leads_of_rewrites hstep hY with hα | ⟨X, hα, hXY⟩
      · exact ⟨Y, hα, hYZ⟩
      · exact ⟨X, hα, .head hXY hYZ⟩

/-- A symbol reaches itself through left corners exactly when it derives a form that begins with
itself. -/
theorem WellFormed.transGen_leftCorner_iff (hg : g.WellFormed) {A : Symbol} :
    Relation.TransGen g.LeftCorner A A ↔
      A ∈ g.nonTerminals ∧ ∃ γ, Relation.TransGen g.Rewrites [A] (A :: γ) := by
  constructor
  · intro h
    obtain ⟨B, hAB, -⟩ := Relation.TransGen.head'_iff.mp h
    exact ⟨hAB.left_mem hg, exists_transGen_of_leftCorners hg h (hAB.left_ne_epsilon hg)⟩
  · rintro ⟨hmem, γ, h⟩
    obtain ⟨name, rfl⟩ := exists_eq_of_mem_nonTerminals hmem
    obtain ⟨β, hstep, hβ⟩ := Relation.TransGen.head'_iff.mp h
    have hleads : g.Leads (.nonTerminal name :: γ) (.nonTerminal name) :=
      leads_cons_iff.mpr (.inl rfl)
    obtain ⟨X, hX, hXA⟩ := exists_leads_of_derives hβ hleads
    obtain ⟨a, hrule, rfl⟩ := exists_rule_of_rewrites_singleton hstep
    exact .head' ⟨a, hrule, leads_of_leads_visible hX⟩ hXA

end Grammar

end Predictive
