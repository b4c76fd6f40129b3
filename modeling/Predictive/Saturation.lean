/-!
# Saturation

`untilStable` repeats a step until the step reports that it changed nothing. The number of steps is
not bounded beforehand; the recursion ends because every step that changes something leaves less
room for the next change, as long as an invariant of the state holds.

A step is often a `sweep` over a list, with one update for each item. The updates are made one after
another, so each of them sees what the ones before it have changed.

The answer is the state after the last step together with the number of steps, the last one, which
changed nothing, included. `step_untilStable` says that the answer comes out of a step without
change.
-/

namespace Predictive

/-- Updates a state for every item of a list, from left to right, and says whether any of the
updates changed something. -/
def sweep {ι α : Type} (update : ι → α → α × Bool) : List ι → α → α × Bool
  | [], a => (a, false)
  | x :: xs, a =>
    let head := update x a
    let tail := sweep update xs head.1
    (tail.1, head.2 || tail.2)

/-- What every update keeps is kept by the sweep. -/
theorem sweep_of_update {ι α : Type} {update : ι → α → α × Bool} {xs : List ι} {P : α → Prop}
    (hupdate : ∀ x ∈ xs, ∀ a, P a → P (update x a).1) {a : α} (h : P a) :
    P (sweep update xs a).1 := by
  induction xs generalizing a with
  | nil => exact h
  | cons x xs ih =>
      exact ih (fun y hy => hupdate y (List.mem_cons_of_mem x hy))
        (hupdate x List.mem_cons_self a h)

/-- A sweep that reports no change leaves the state as it was, and so does each of its updates, when
this is true of every single update. -/
theorem sweep_unchanged {ι α : Type} {update : ι → α → α × Bool}
    (hsame : ∀ x a, (update x a).2 = false → (update x a).1 = a) {xs : List ι} {a : α}
    (h : (sweep update xs a).2 = false) :
    (sweep update xs a).1 = a ∧ ∀ x ∈ xs, (update x a).2 = false := by
  induction xs generalizing a with
  | nil => exact ⟨rfl, fun x hx => nomatch hx⟩
  | cons x xs ih =>
      rw [sweep, Bool.or_eq_false_iff] at h
      obtain ⟨hhead, htail⟩ := h
      obtain ⟨heq, hrest⟩ := ih htail
      rw [hsame x a hhead] at heq hrest
      rw [sweep, hsame x a hhead]
      exact ⟨heq, List.forall_mem_cons.mpr ⟨hhead, hrest⟩⟩

/-- A state that a step left as it was, and the number of steps that led there. -/
structure Stable (α : Type) where
  value : α
  passes : Nat

/-- Repeats `step` while it reports a change. -/
def untilStable {α : Type} (step : α → α × Bool) (invariant : α → Prop) (room : α → Nat)
    (keeps : ∀ a, invariant a → invariant (step a).1)
    (shrinks : ∀ a, invariant a → (step a).2 = true → room (step a).1 < room a)
    (a : α) (ha : invariant a) : Stable α :=
  match h : step a with
  | (b, false) => ⟨b, 1⟩
  | (b, true) =>
    have hb : invariant b := by simpa [h] using keeps a ha
    let rest := untilStable step invariant room keeps shrinks b hb
    ⟨rest.value, rest.passes + 1⟩
termination_by room a
decreasing_by simpa [h] using shrinks a ha (by simp [h])

variable {α : Type} {step : α → α × Bool} {invariant : α → Prop} {room : α → Nat}

theorem step_untilStable
    (keeps : ∀ a, invariant a → invariant (step a).1)
    (shrinks : ∀ a, invariant a → (step a).2 = true → room (step a).1 < room a)
    (a : α) (ha : invariant a) :
    ∃ b, invariant b ∧
      step b = ((untilStable step invariant room keeps shrinks a ha).value, false) := by
  fun_induction untilStable step invariant room keeps shrinks a ha with
  | case1 a ha b h => exact ⟨a, ha, h⟩
  | case2 a ha b h hb rest ih => exact ih

end Predictive
