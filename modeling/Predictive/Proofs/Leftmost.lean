import Predictive.Proofs.Derivation
import Predictive.Proofs.Grammar.WellFormed

/-!
# Leftmost derivations

A leftmost derivation rewrites the first non-terminal of a form in each step. What it chooses is the
position of an alternative in the production of that non-terminal, and nothing else; so a derivation
from a given form is the list of these positions. Two derivations are different when they choose
different positions, also if the alternatives there are equal as sequences.

A word that is derived from a form is derived from it leftmost (`exists_leftmost_iff`).
-/

namespace Predictive

namespace Grammar

/-- One leftmost step, with the alternative at position `i`. -/
inductive RewritesLeftmost (g : Grammar) (i : ℕ) : List Symbol → List Symbol → Prop
  | expand {before : List Symbol} (hbefore : ∀ s ∈ before, s.isNonTerminal = false)
      (after : List Symbol) {name : String} {p : Production}
      (hp : g.production? (.nonTerminal name) = some p) {a : Alternative}
      (ha : p.alternatives[i]? = some a) :
      RewritesLeftmost g i (before ++ .nonTerminal name :: after) (before ++ (visible a ++ after))

inductive Leftmost (g : Grammar) : List ℕ → List Symbol → List Symbol → Prop
  | nil (α : List Symbol) : Leftmost g [] α α
  | cons {i : ℕ} {positions : List ℕ} {α β γ : List Symbol} (hstep : g.RewritesLeftmost i α β)
      (h : Leftmost g positions β γ) : Leftmost g (i :: positions) α γ

variable {g : Grammar}

/-! ### The first non-terminal -/

theorem isNonTerminal_eq_false_of_mem_word (word : List String) :
    ∀ s ∈ word.map Symbol.terminal, s.isNonTerminal = false := by
  intro s hs
  obtain ⟨name, -, rfl⟩ := List.mem_map.mp hs
  rfl

theorem eq_of_append_nonTerminal_eq {before before' after after' : List Symbol}
    {name name' : String} (hbefore : ∀ s ∈ before, s.isNonTerminal = false)
    (hbefore' : ∀ s ∈ before', s.isNonTerminal = false)
    (h : before ++ .nonTerminal name :: after = before' ++ .nonTerminal name' :: after') :
    before = before' ∧ name = name' ∧ after = after' := by
  induction before generalizing before' with
  | nil =>
      cases before' with
      | nil => simpa using h
      | cons s before' =>
          obtain ⟨rfl, -⟩ := List.cons.inj h
          have hs := hbefore' _ List.mem_cons_self
          cases hs
  | cons s before ih =>
      obtain ⟨hs, hbefore⟩ := List.forall_mem_cons.mp hbefore
      cases before' with
      | nil =>
          obtain ⟨rfl, -⟩ := List.cons.inj h
          cases hs
      | cons s' before' =>
          obtain ⟨rfl, htail⟩ := List.cons.inj h
          have hrest := ih hbefore (List.forall_mem_cons.mp hbefore').2 htail
          simpa using hrest

/-- Symbols that are no non-terminals stay in front of what is derived behind them. -/
theorem derives_append_of_fixed {before α γ : List Symbol}
    (hbefore : ∀ s ∈ before, s.isNonTerminal = false) :
    g.Derives (before ++ α) γ ↔ ∃ γ', γ = before ++ γ' ∧ g.Derives α γ' := by
  induction before generalizing γ with
  | nil => simp
  | cons s before ih =>
      obtain ⟨hs, hbefore⟩ := List.forall_mem_cons.mp hbefore
      rw [List.cons_append, derives_cons_iff hs]
      constructor
      · rintro ⟨δ, rfl, hδ⟩
        obtain ⟨γ', rfl, hγ'⟩ := (ih hbefore).mp hδ
        exact ⟨γ', rfl, hγ'⟩
      · rintro ⟨γ', rfl, hγ'⟩
        exact ⟨before ++ γ', rfl, (ih hbefore).mpr ⟨γ', rfl, hγ'⟩⟩

/-! ### Leftmost derivations are derivations -/

theorem RewritesLeftmost.rewrites {i : ℕ} {α β : List Symbol} (h : g.RewritesLeftmost i α β) :
    g.Rewrites α β := by
  cases h with
  | expand hbefore after hp ha =>
      exact .expand _ after (mem_rules_of_production? hp (List.mem_of_getElem? ha))

theorem RewritesLeftmost.not_fixed {i : ℕ} {α β : List Symbol} (h : g.RewritesLeftmost i α β) :
    ¬ ∀ s ∈ α, s.isNonTerminal = false := by
  intro hα
  cases h with
  | @expand before _ after name _ _ _ _ =>
      have hname := hα (.nonTerminal name) (by simp)
      cases hname

namespace Leftmost

theorem derives {positions : List ℕ} {α β : List Symbol} (h : g.Leftmost positions α β) :
    g.Derives α β := by
  induction h with
  | nil α => exact .refl g α
  | cons hstep _ ih => exact .head hstep.rewrites ih

theorem trans {positions positions' : List ℕ} {α β γ : List Symbol}
    (h : g.Leftmost positions α β) (h' : g.Leftmost positions' β γ) :
    g.Leftmost (positions ++ positions') α γ := by
  induction h with
  | nil α => exact h'
  | cons hstep _ ih => exact .cons hstep (ih h')

end Leftmost

/-! ### Every word has a leftmost derivation -/

/-- What the symbols of a form become can be derived from left to right, behind symbols that are no
non-terminals. -/
theorem exists_leftmost_of_yields (hg : g.WellFormed) {α β : List Symbol} (h : g.Yields α β)
    (hβ : ∀ s ∈ β, s.isNonTerminal = false) {before : List Symbol}
    (hbefore : ∀ s ∈ before, s.isNonTerminal = false) (after : List Symbol) :
    ∃ positions, g.Leftmost positions (before ++ (α ++ after)) (before ++ (β ++ after)) := by
  induction h generalizing before after with
  | nil => exact ⟨[], .nil _⟩
  | @keep s α β _ ih =>
      obtain ⟨hs, hβ⟩ := List.forall_mem_cons.mp hβ
      have hlonger : ∀ t ∈ before ++ [s], t.isNonTerminal = false :=
        List.forall_mem_append.mpr ⟨hbefore, by simpa using hs⟩
      obtain ⟨positions, hpositions⟩ := ih hβ hlonger after
      refine ⟨positions, ?_⟩
      simpa using hpositions
  | @expand name a α β γ hrule _ _ iha ih =>
      obtain ⟨hβ, hγ⟩ := List.forall_mem_append.mp hβ
      obtain ⟨p, hp, hleft, ha⟩ := (mem_rules_iff g _ _).mp hrule
      obtain ⟨i, hi⟩ := List.getElem?_of_mem ha
      have hproduction : g.production? (.nonTerminal name) = some p :=
        hleft ▸ hg.production?_left hp
      have hstep := RewritesLeftmost.expand hbefore (α ++ after) hproduction hi
      have hlonger : ∀ t ∈ before ++ β, t.isNonTerminal = false :=
        List.forall_mem_append.mpr ⟨hbefore, hβ⟩
      obtain ⟨inner, hinner⟩ := iha hβ hbefore (α ++ after)
      obtain ⟨outer, houter⟩ := ih hγ hlonger after
      simp only [List.append_assoc] at houter
      refine ⟨i :: (inner ++ outer), ?_⟩
      rw [List.append_assoc]
      exact .cons hstep (hinner.trans houter)

theorem exists_leftmost_iff (hg : g.WellFormed) {α : List Symbol} {word : List String} :
    (∃ positions, g.Leftmost positions α (word.map .terminal)) ↔
      g.Derives α (word.map .terminal) := by
  constructor
  · rintro ⟨positions, h⟩
    exact h.derives
  · intro h
    have hnil : ∀ s ∈ ([] : List Symbol), s.isNonTerminal = false := by simp
    have hleftmost := exists_leftmost_of_yields hg (yields_iff_derives.mpr h)
      (isNonTerminal_eq_false_of_mem_word word) hnil []
    simpa using hleftmost

end Grammar

end Predictive
