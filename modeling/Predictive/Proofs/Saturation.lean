import Mathlib.Logic.Function.Iterate
import Predictive.Saturation

/-!
# What a search for a stable state keeps

The state that `untilStable` finds comes out of some number of steps. So whatever a step keeps, the
whole search keeps, its invariant or not.
-/

namespace Predictive

variable {α : Type} {step : α → α × Bool} {invariant : α → Prop} {room : α → ℕ}

/-- After some number of steps, the next one reports no change and gives the answer. -/
theorem exists_step_iterate_eq (keeps : ∀ a, invariant a → invariant (step a).1)
    (shrinks : ∀ a, invariant a → (step a).2 = true → room (step a).1 < room a)
    (a : α) (ha : invariant a) :
    ∃ n, step ((fun a => (step a).1)^[n] a) =
      ((untilStable step invariant room keeps shrinks a ha).value, false) := by
  fun_induction untilStable step invariant room keeps shrinks a ha with
  | case1 a ha b h => exact ⟨0, h⟩
  | case2 a ha b h hb rest ih =>
      obtain ⟨n, hn⟩ := ih
      refine ⟨n + 1, ?_⟩
      rw [Function.iterate_succ_apply, h]
      exact hn

theorem exists_untilStable_eq (keeps : ∀ a, invariant a → invariant (step a).1)
    (shrinks : ∀ a, invariant a → (step a).2 = true → room (step a).1 < room a)
    (a : α) (ha : invariant a) :
    ∃ n, (untilStable step invariant room keeps shrinks a ha).value =
      (fun a => (step a).1)^[n] a := by
  obtain ⟨n, hn⟩ := exists_step_iterate_eq keeps shrinks a ha
  refine ⟨n + 1, ?_⟩
  rw [Function.iterate_succ_apply', hn]

/-- What every step keeps is kept by the search. -/
theorem untilStable_of_step (keeps : ∀ a, invariant a → invariant (step a).1)
    (shrinks : ∀ a, invariant a → (step a).2 = true → room (step a).1 < room a)
    (a : α) (ha : invariant a) {P : α → Prop} (hstep : ∀ a, P a → P (step a).1)
    (h : P a) : P (untilStable step invariant room keeps shrinks a ha).value := by
  obtain ⟨n, hn⟩ := exists_untilStable_eq keeps shrinks a ha
  rw [hn]
  clear hn ha
  induction n generalizing a with
  | zero => exact h
  | succ n ih => exact ih _ (hstep a h)

end Predictive
