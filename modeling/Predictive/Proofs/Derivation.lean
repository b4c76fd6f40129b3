import Mathlib.Logic.Relation
import Predictive.Grammar.Basic

/-!
# Derivations

A sentential form is a sequence of symbols in which `ε` is left out. A grammar rewrites a form by
putting an alternative in the place of one occurrence of its left side; `Derives` is any number of
such steps. Only a non-terminal is rewritten, so a word of terminals derives nothing but itself.

`Derives` is the primary definition, because it is the one in which properties of a grammar are
told. A derivation that goes from symbol to symbol is `Yields`: it says what every single symbol of
a form becomes. Both are the same relation (`yields_iff_derives`), and the second is the one to do
induction on when the parts of a form have to be told apart.
-/

namespace Predictive

/-- A sequence of symbols with its `ε` left out. -/
def visible (sequence : List Symbol) : List Symbol :=
  sequence.filter (· != .epsilon)

theorem visible_nil : visible [] = [] := rfl

theorem visible_epsilon (rest : List Symbol) : visible (.epsilon :: rest) = visible rest := rfl

theorem visible_cons {s : Symbol} (h : s ≠ .epsilon) (rest : List Symbol) :
    visible (s :: rest) = s :: visible rest := by
  rw [visible, List.filter_cons_of_pos (by simpa using h), visible]

theorem visible_append (α β : List Symbol) : visible (α ++ β) = visible α ++ visible β :=
  List.filter_append ..

theorem mem_visible {s : Symbol} {sequence : List Symbol} :
    s ∈ visible sequence ↔ s ∈ sequence ∧ s ≠ .epsilon := by
  simp [visible]

theorem visible_eq_self {sequence : List Symbol} (h : .epsilon ∉ sequence) :
    visible sequence = sequence := by
  rw [visible, List.filter_eq_self]
  intro s hs
  simp only [bne_iff_ne, ne_eq]
  exact fun he => h (he ▸ hs)

theorem visible_orEpsilon (sequence : List Symbol) :
    visible (Alternative.orEpsilon sequence) = visible sequence := by
  cases sequence with
  | nil => rfl
  | cons s rest => rfl

theorem visible_ofSequence (sequence : List Symbol) :
    visible (Alternative.ofSequence sequence) = visible sequence := by
  change visible (Alternative.orEpsilon (visible sequence)) = visible sequence
  rw [visible_orEpsilon, visible_eq_self]
  intro h
  exact (mem_visible.mp h).2 rfl

namespace Grammar

/-- One step: an alternative takes the place of its left side. -/
inductive Rewrites (g : Grammar) : List Symbol → List Symbol → Prop
  | expand (before after : List Symbol) {name : String} {a : Alternative}
      (h : (.nonTerminal name, a) ∈ g.rules) :
      Rewrites g (before ++ .nonTerminal name :: after) (before ++ (visible a ++ after))

def Derives (g : Grammar) : List Symbol → List Symbol → Prop :=
  Relation.ReflTransGen g.Rewrites

/-- A symbol derives a word, given by the names of its terminals. -/
def Generates (g : Grammar) (s : Symbol) (word : List String) : Prop :=
  g.Derives [s] (word.map .terminal)

/-- What the symbols of a form become, one after another. -/
inductive Yields (g : Grammar) : List Symbol → List Symbol → Prop
  | nil : Yields g [] []
  | keep (s : Symbol) {α β : List Symbol} (h : Yields g α β) : Yields g (s :: α) (s :: β)
  | expand {name : String} {a : Alternative} {α β γ : List Symbol}
      (hrule : (.nonTerminal name, a) ∈ g.rules) (ha : Yields g (visible a) β)
      (h : Yields g α γ) : Yields g (.nonTerminal name :: α) (β ++ γ)

variable {g : Grammar}

theorem Rewrites.append_left {α β : List Symbol} (h : g.Rewrites α β) (γ : List Symbol) :
    g.Rewrites (γ ++ α) (γ ++ β) := by
  cases h with
  | expand before after h =>
      rw [← List.append_assoc, ← List.append_assoc γ before]
      exact .expand (γ ++ before) after h

theorem Rewrites.append_right {α β : List Symbol} (h : g.Rewrites α β) (γ : List Symbol) :
    g.Rewrites (α ++ γ) (β ++ γ) := by
  cases h with
  | expand before after h =>
      rw [List.append_assoc, List.cons_append, List.append_assoc, List.append_assoc]
      exact .expand before (after ++ γ) h

theorem exists_rule_of_rewrites_singleton {A : Symbol} {β : List Symbol}
    (h : g.Rewrites [A] β) : ∃ a, (A, a) ∈ g.rules ∧ β = visible a := by
  generalize hα : [A] = α at h
  cases h with
  | expand before after hrule =>
      have hnil : before = [] ∧ after = [] := by
        have hlength := congrArg List.length hα
        simp only [List.length_append, List.length_cons, List.length_nil] at hlength
        exact ⟨List.eq_nil_of_length_eq_zero (by omega), List.eq_nil_of_length_eq_zero (by omega)⟩
      obtain ⟨rfl, rfl⟩ := hnil
      cases hα
      exact ⟨_, hrule, by simp⟩

namespace Derives

theorem refl (g : Grammar) (α : List Symbol) : g.Derives α α :=
  Relation.ReflTransGen.refl

theorem trans {α β γ : List Symbol} (h₁ : g.Derives α β) (h₂ : g.Derives β γ) : g.Derives α γ :=
  Relation.ReflTransGen.trans h₁ h₂

/-- The parts of a form are derived from independently. -/
theorem append {α α' β β' : List Symbol} (hα : g.Derives α α') (hβ : g.Derives β β') :
    g.Derives (α ++ β) (α' ++ β') := by
  have hleft : g.Derives (α ++ β) (α' ++ β) :=
    Relation.ReflTransGen.lift (p := g.Rewrites) (· ++ β) (fun _ _ h => Rewrites.append_right h β)
      _ _ hα
  have hright : g.Derives (α' ++ β) (α' ++ β') :=
    Relation.ReflTransGen.lift (p := g.Rewrites) (α' ++ ·) (fun _ _ h => Rewrites.append_left h α')
      _ _ hβ
  exact hleft.trans hright

theorem of_rule {name : String} {a : Alternative} (h : (.nonTerminal name, a) ∈ g.rules) :
    g.Derives [.nonTerminal name] (visible a) := by
  have hstep := Rewrites.expand (g := g) [] [] h
  rw [List.nil_append, List.append_nil, List.nil_append] at hstep
  exact .single hstep

end Derives

namespace Yields

theorem refl (α : List Symbol) : g.Yields α α := by
  induction α with
  | nil => exact .nil
  | cons s α ih => exact .keep s ih

theorem append {α α' β β' : List Symbol} (hα : g.Yields α α') (hβ : g.Yields β β') :
    g.Yields (α ++ β) (α' ++ β') := by
  induction hα with
  | nil => exact hβ
  | keep s h ih => exact .keep s ih
  | expand hrule ha h iha ih =>
      rw [List.cons_append, List.append_assoc]
      exact .expand hrule ha ih

end Yields

theorem yields_append_iff {α β γ : List Symbol} :
    g.Yields (α ++ β) γ ↔ ∃ γ₁ γ₂, γ = γ₁ ++ γ₂ ∧ g.Yields α γ₁ ∧ g.Yields β γ₂ := by
  constructor
  · intro h
    induction α generalizing γ with
    | nil => exact ⟨[], γ, rfl, .nil, h⟩
    | cons s α ih =>
        cases h with
        | keep _ h =>
            obtain ⟨γ₁, γ₂, rfl, h₁, h₂⟩ := ih h
            exact ⟨s :: γ₁, γ₂, rfl, .keep s h₁, h₂⟩
        | expand hrule ha h =>
            obtain ⟨γ₁, γ₂, rfl, h₁, h₂⟩ := ih h
            exact ⟨_ ++ γ₁, γ₂, (List.append_assoc ..).symm, .expand hrule ha h₁, h₂⟩
  · rintro ⟨γ₁, γ₂, rfl, h₁, h₂⟩
    exact h₁.append h₂

theorem Yields.of_rewrites {α β γ : List Symbol} (hstep : g.Rewrites α β) (h : g.Yields β γ) :
    g.Yields α γ := by
  cases hstep with
  | expand before after hrule =>
      obtain ⟨γ₁, γ₂, rfl, h₁, h₂⟩ := yields_append_iff.mp h
      obtain ⟨γ₃, γ₄, rfl, h₃, h₄⟩ := yields_append_iff.mp h₂
      exact h₁.append (.expand hrule h₃ h₄)

theorem yields_iff_derives {α β : List Symbol} : g.Yields α β ↔ g.Derives α β := by
  constructor
  · intro h
    induction h with
    | nil => exact .refl g []
    | keep s h ih => exact (Derives.refl g [s]).append ih
    | expand hrule ha h iha ih => exact ((Derives.of_rule hrule).trans iha).append ih
  · intro h
    induction h using Relation.ReflTransGen.head_induction_on with
    | refl => exact .refl β
    | head hstep _ ih => exact .of_rewrites hstep ih

theorem derives_append_iff {α β γ : List Symbol} :
    g.Derives (α ++ β) γ ↔ ∃ γ₁ γ₂, γ = γ₁ ++ γ₂ ∧ g.Derives α γ₁ ∧ g.Derives β γ₂ := by
  simp only [← yields_iff_derives]
  exact yields_append_iff

theorem derives_nil_iff {γ : List Symbol} : g.Derives [] γ ↔ γ = [] := by
  rw [← yields_iff_derives]
  constructor
  · intro h
    cases h
    rfl
  · rintro rfl
    exact .nil

theorem derives_cons_iff {s : Symbol} (hs : s.isNonTerminal = false) {α γ : List Symbol} :
    g.Derives (s :: α) γ ↔ ∃ γ', γ = s :: γ' ∧ g.Derives α γ' := by
  simp only [← yields_iff_derives]
  constructor
  · intro h
    cases h with
    | keep _ h => exact ⟨_, rfl, h⟩
    | expand => cases hs
  · rintro ⟨γ', rfl, h⟩
    exact .keep s h

/-- What a non-terminal becomes other than itself comes from one of its alternatives. -/
theorem derives_nonTerminal_iff {name : String} {γ : List Symbol} :
    g.Derives [.nonTerminal name] γ ↔ γ = [.nonTerminal name] ∨
      ∃ a, (.nonTerminal name, a) ∈ g.rules ∧ g.Derives (visible a) γ := by
  constructor
  · intro h
    rw [← yields_iff_derives] at h
    cases h with
    | keep _ h =>
        cases h
        exact .inl rfl
    | expand hrule ha h =>
        cases h
        rw [List.append_nil]
        exact .inr ⟨_, hrule, yields_iff_derives.mp ha⟩
  · rintro (rfl | ⟨a, hrule, h⟩)
    · exact .refl g _
    · exact (Derives.of_rule hrule).trans h

end Grammar

end Predictive
