import Predictive.Grammar.Basic

/-!
# Overlap of alternatives

`sharedLength` is the length of the longest common prefix of two alternatives, in which `ε` does
not count. `overlap` is the greatest such length over all pairs of alternatives of one production,
and of a whole grammar over all its productions; it is 0 when there is no pair. It is compared with
a bound pair by pair (`Alternative.overlap_le_iff`).
-/

namespace Predictive

namespace Alternative

theorem leading?_cons {s : Symbol} (h : s ≠ .epsilon) (rest : List Symbol) :
    leading? (s :: rest) = some s := by
  cases s with
  | epsilon => exact absurd rfl h
  | endMarker => rfl
  | terminal name => rfl
  | nonTerminal name => rfl

/-- The number of symbols that two alternatives have in common before they differ. -/
def sharedLength : Alternative → Alternative → Nat
  | a :: as, b :: bs => if a = b ∧ a ≠ .epsilon then sharedLength as bs + 1 else 0
  | _, _ => 0

theorem sharedLength_cons_cons (a b : Symbol) (as bs : List Symbol) :
    sharedLength (a :: as) (b :: bs) =
      if a = b ∧ a ≠ .epsilon then sharedLength as bs + 1 else 0 := rfl

theorem sharedLength_nil_left (b : Alternative) : sharedLength [] b = 0 := rfl

theorem sharedLength_nil_right (a : Alternative) : sharedLength a [] = 0 := by
  cases a <;> rfl

theorem sharedLength_orEpsilon (a b : List Symbol) :
    sharedLength (orEpsilon a) (orEpsilon b) = sharedLength a b := by
  cases a with
  | nil =>
      cases b with
      | nil => simp [orEpsilon, sharedLength]
      | cons b bs =>
          rw [orEpsilon, orEpsilon, sharedLength_nil_left, sharedLength_cons_cons, if_neg]
          rintro ⟨-, h⟩
          exact h rfl
  | cons a as =>
      cases b with
      | nil =>
          rw [orEpsilon, orEpsilon, sharedLength_nil_right, sharedLength_cons_cons, if_neg]
          rintro ⟨rfl, h⟩
          exact h rfl
      | cons b bs => rfl

theorem eq_cons_of_leading?_eq_some {a : Alternative} {s : Symbol} (h : leading? a = some s) :
    a = s :: a.tail ∧ s ≠ .epsilon := by
  unfold leading? at h
  split at h
  · cases h
  · cases h
  · next s' rest hne =>
      cases h
      exact ⟨rfl, hne⟩

theorem sharedLength_eq_zero {a b : Alternative} (h : leading? a = none ∨ leading? a ≠ leading? b) :
    sharedLength a b = 0 := by
  cases a with
  | nil => rfl
  | cons x xs =>
      cases b with
      | nil => rfl
      | cons y ys =>
          rw [sharedLength_cons_cons, if_neg]
          rintro ⟨rfl, hx⟩
          rw [leading?_cons hx, leading?_cons hx] at h
          rcases h with h | h
          · cases h
          · exact h rfl

/-- The greatest length of a prefix that two of the alternatives share. -/
def overlap : List Alternative → Nat
  | [] => 0
  | a :: rest => rest.foldr (fun b longest => max (sharedLength a b) longest) (overlap rest)

theorem overlap_le_iff (alternatives : List Alternative) (k : Nat) :
    overlap alternatives ≤ k ↔ alternatives.Pairwise fun a b => sharedLength a b ≤ k := by
  have hfold : ∀ (a : Alternative) (rest : List Alternative) (m : Nat),
      rest.foldr (fun b longest => max (sharedLength a b) longest) m ≤ k ↔
        (∀ b ∈ rest, sharedLength a b ≤ k) ∧ m ≤ k := by
    intro a rest m
    induction rest with
    | nil => simp
    | cons b rest ih => rw [List.foldr_cons, Nat.max_le, ih, List.forall_mem_cons, and_assoc]
  induction alternatives with
  | nil => simp [overlap]
  | cons a rest ih =>
      rw [List.pairwise_cons]
      exact (hfold a rest (overlap rest)).trans (and_congr_right fun _ => ih)

end Alternative

namespace Grammar

/-- The greatest length of a prefix that two alternatives of one production share. -/
def overlap (g : Grammar) : Nat :=
  g.productions.foldr (fun p longest => max (Alternative.overlap p.alternatives) longest) 0

theorem overlap_le_iff (g : Grammar) (k : Nat) :
    g.overlap ≤ k ↔ ∀ p ∈ g.productions, Alternative.overlap p.alternatives ≤ k := by
  unfold overlap
  induction g.productions with
  | nil => simp
  | cons p rest ih => rw [List.foldr_cons, Nat.max_le, ih, List.forall_mem_cons]

end Grammar

end Predictive
