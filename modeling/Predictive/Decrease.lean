/-!
# Counts that decrease

Searches and saturations end because something finite is used up: the vertices that have not been
visited, the fields that have not been read, or the facts that are still missing.
-/

namespace Predictive

theorem length_erase_lt {α : Type} [DecidableEq α] {l : List α} {a : α} (h : a ∈ l) :
    (l.erase a).length < l.length := by
  have hpos := List.length_pos_of_mem h
  rw [List.length_erase_of_mem h]
  omega

/-- A predicate that implies another one, and fails at a member where that one holds, has fewer
members of the list. -/
theorem countP_lt_countP {α : Type} {p q : α → Bool} {l : List α}
    (himp : ∀ x ∈ l, p x = true → q x = true) {a : α} (ha : a ∈ l) (hp : p a = false)
    (hq : q a = true) : l.countP p < l.countP q := by
  induction l with
  | nil => cases ha
  | cons x l ih =>
      have hmono : l.countP p ≤ l.countP q :=
        List.countP_mono_left fun y hy => himp y (List.mem_cons_of_mem x hy)
      rcases List.mem_cons.mp ha with rfl | ha
      · simp only [List.countP_cons, hp, hq, Bool.false_eq_true, if_false, if_true]
        omega
      · have hlt := ih (fun y hy => himp y (List.mem_cons_of_mem x hy)) ha
        have hx := himp x List.mem_cons_self
        simp only [List.countP_cons]
        split
        · rw [if_pos (hx ‹_›)]
          omega
        · omega

end Predictive
