import Predictive.LeftRecursion.Nullable
import Predictive.Proofs.Derivation
import Predictive.Proofs.Grammar.WellFormed
import Predictive.Proofs.Saturation

/-!
# Symbols that vanish

A symbol vanishes when it derives the empty form; `ε` always does, since it is left out of forms. A
sequence derives the empty form exactly when each of its symbols vanishes.

The search for nullable symbols finds those that vanish, and no others
(`WellFormed.mem_nullable_iff`). That it finds all of them is an induction from the end of a
derivation: the set is closed under the rules, so a form whose symbols are all in it comes only out
of such forms.
-/

namespace Predictive

theorem vanishes_cons (known : List Symbol) (s : Symbol) (rest : List Symbol) :
    vanishes known (s :: rest) = true ↔
      (s = .epsilon ∨ s ∈ known) ∧ vanishes known rest = true := by
  simp [vanishes]

theorem vanishes_append (known α β : List Symbol) :
    vanishes known (α ++ β) = true ↔ vanishes known α = true ∧ vanishes known β = true := by
  simp [vanishes]

theorem vanishes_visible (known α : List Symbol) :
    vanishes known (visible α) = true ↔ vanishes known α = true := by
  induction α with
  | nil => rfl
  | cons s α ih =>
      by_cases hs : s = .epsilon
      · rw [hs, visible_epsilon, ih, vanishes_cons]
        simp
      · rw [visible_cons hs, vanishes_cons, vanishes_cons, ih]

namespace Grammar

def Vanishes (g : Grammar) (s : Symbol) : Prop :=
  g.Derives (visible [s]) []

variable {g : Grammar}

theorem vanishes_epsilon (g : Grammar) : g.Vanishes .epsilon :=
  .refl g []

theorem forall_vanishes_visible {α : List Symbol} :
    (∀ s ∈ visible α, g.Vanishes s) ↔ ∀ s ∈ α, g.Vanishes s := by
  constructor
  · intro h s hs
    by_cases heq : s = .epsilon
    · exact heq ▸ vanishes_epsilon g
    · exact h s (mem_visible.mpr ⟨hs, heq⟩)
  · exact fun h s hs => h s (mem_visible.mp hs).1

theorem not_vanishes_of_isNonTerminal_eq_false {s : Symbol} (hs : s.isNonTerminal = false)
    (hne : s ≠ .epsilon) : ¬ g.Vanishes s := by
  intro h
  rw [Vanishes, visible_cons hne, visible_nil] at h
  obtain ⟨γ, hγ, -⟩ := (derives_cons_iff hs).mp h
  cases hγ

theorem derives_nil_iff_forall_vanishes {α : List Symbol} :
    g.Derives (visible α) [] ↔ ∀ s ∈ α, g.Vanishes s := by
  induction α with
  | nil => simp [visible_nil, derives_nil_iff]
  | cons s α ih =>
      have hsplit : visible (s :: α) = visible [s] ++ visible α := visible_append [s] α
      rw [hsplit, derives_append_iff, List.forall_mem_cons, ← ih]
      constructor
      · rintro ⟨γ₁, γ₂, hnil, h₁, h₂⟩
        obtain ⟨rfl, rfl⟩ := List.append_eq_nil_iff.mp hnil.symm
        exact ⟨h₁, h₂⟩
      · rintro ⟨h₁, h₂⟩
        exact ⟨[], [], rfl, h₁, h₂⟩

theorem vanishes_of_rule {name : String} {a : Alternative}
    (hrule : (.nonTerminal name, a) ∈ g.rules) (ha : ∀ s ∈ a, g.Vanishes s) :
    g.Vanishes (.nonTerminal name) :=
  (Derives.of_rule hrule).trans (derives_nil_iff_forall_vanishes.mpr ha)

/-! ### The search for nullable symbols -/

theorem WellFormed.vanishes_of_nullableUpdate (hg : g.WellFormed) {p : Production}
    (hp : p ∈ g.productions) {known : List Symbol} (hknown : ∀ s ∈ known, g.Vanishes s) :
    ∀ s ∈ (nullableUpdate p known).1, g.Vanishes s := by
  rcases nullableUpdate_cases p known with ⟨h, -, a, ha, hvanishes⟩ | ⟨h, -⟩
  · rw [h]
    refine List.forall_mem_cons.mpr ⟨?_, hknown⟩
    obtain ⟨name, hname⟩ := exists_eq_of_mem_nonTerminals (hg.left_mem p hp)
    rw [hname]
    refine vanishes_of_rule ((mem_rules_iff g _ a).mpr ⟨p, hp, hname, ha⟩) fun s hs => ?_
    have hin := List.all_eq_true.mp hvanishes s hs
    simp only [Bool.or_eq_true, beq_iff_eq, List.contains_iff_mem] at hin
    rcases hin with rfl | hin
    · exact g.vanishes_epsilon
    · exact hknown s hin
  · rw [h]
    exact hknown

theorem WellFormed.vanishes_of_nullablePass (hg : g.WellFormed) {known : List Symbol}
    (hknown : ∀ s ∈ known, g.Vanishes s) : ∀ s ∈ (g.nullablePass known).1, g.Vanishes s :=
  sweep_of_update (P := fun known => ∀ s ∈ known, g.Vanishes s)
    (fun _ hp _ => hg.vanishes_of_nullableUpdate hp) hknown

theorem WellFormed.vanishes_of_mem_nullable (hg : g.WellFormed) :
    ∀ s ∈ g.nullable, g.Vanishes s :=
  untilStable_of_step (P := fun known => ∀ s ∈ known, g.Vanishes s) _ _ _ _
    (fun _ => hg.vanishes_of_nullablePass) (List.forall_mem_nil _)

/-- The set that the search ends with is closed under the rules. -/
theorem mem_nullable_of_rule {left : Symbol} {a : Alternative} (hrule : (left, a) ∈ g.rules)
    (ha : vanishes g.nullable a = true) : left ∈ g.nullable := by
  obtain ⟨p, hp, rfl, hmem⟩ := (mem_rules_iff g _ _).mp hrule
  rcases (nullableUpdate_of_unchanged (g.nullable_complete hp)).2 with hleft | hnone
  · exact hleft
  · rw [hnone a hmem] at ha
    cases ha

theorem vanishes_nullable_of_rewrites {α β : List Symbol} (hstep : g.Rewrites α β)
    (hβ : vanishes g.nullable β = true) : vanishes g.nullable α = true := by
  cases hstep with
  | expand before after hrule =>
      simp only [vanishes_append, vanishes_visible, vanishes_cons] at hβ ⊢
      obtain ⟨hbefore, ha, hafter⟩ := hβ
      exact ⟨hbefore, .inr (mem_nullable_of_rule hrule ha), hafter⟩

theorem vanishes_nullable_of_derives {α : List Symbol} (h : g.Derives α []) :
    vanishes g.nullable α = true := by
  induction h using Relation.ReflTransGen.head_induction_on with
  | refl => rfl
  | head hstep _ ih => exact vanishes_nullable_of_rewrites hstep ih

theorem WellFormed.mem_nullable_iff (hg : g.WellFormed) {s : Symbol} (hs : s ≠ .epsilon) :
    s ∈ g.nullable ↔ g.Vanishes s := by
  constructor
  · intro h
    exact hg.vanishes_of_mem_nullable s h
  · intro h
    rw [Vanishes, visible_cons hs, visible_nil] at h
    have hvanishes := vanishes_nullable_of_derives h
    exact ((vanishes_cons _ _ _).mp hvanishes).1.resolve_left hs

theorem WellFormed.contains_nullable_iff (hg : g.WellFormed) {s : Symbol} (hs : s ≠ .epsilon) :
    g.nullable.contains s = true ↔ g.Vanishes s :=
  List.contains_iff_mem.trans (hg.mem_nullable_iff hs)

end Grammar

end Predictive
