import Mathlib.Order.Defs.PartialOrder
import Predictive.Sets.Basic

/-!
# Sweeps over symbol sets

Maps of symbol sets are compared by their members: one map is below another when every member of a
set of the first is a member of the same set of the second.

A sweep that changed nothing leaves a map that no single update changes either, as long as the
updates are monotone (`update_sweep_le`). The updates of a sweep see the changes of the updates
before them, so this is not a matter of reading the sweep item by item: what an item saw on the way
is only known to be above what it would see at the end.
-/

namespace Predictive

namespace SymbolSets

instance : Preorder SymbolSets where
  le a b := ∀ k s, a.contains k s = true → b.contains k s = true
  le_refl _ _ _ h := h
  le_trans _ _ _ h₁ h₂ k s h := h₂ k s (h₁ k s h)

theorem contains_ofKeys (keys : List Symbol) (k s : Symbol) :
    (ofKeys keys).contains k s = false := by
  have hmembers : (ofKeys keys).members k = [] := by
    unfold members get? ofKeys
    induction keys with
    | nil => rfl
    | cons key keys ih =>
        rw [List.map_cons, List.lookup_cons]
        cases k == key with
        | false => exact ih
        | true => rfl
  rw [contains, hmembers, List.contains_nil]

theorem ofKeys_le (keys : List Symbol) (sets : SymbolSets) : ofKeys keys ≤ sets := by
  intro k s hks
  rw [contains_ofKeys] at hks
  cases hks

theorem contains_eq_of_le_of_le {a b : SymbolSets} (hab : a ≤ b) (hba : b ≤ a) (k s : Symbol) :
    a.contains k s = b.contains k s :=
  Bool.eq_iff_iff.mpr ⟨hab k s, hba k s⟩

namespace Grows

variable {old : SymbolSets} {result : SymbolSets × Bool}

theorem le (h : Grows old result) : old ≤ result.1 := h.mono

theorem le_of_unchanged (h : Grows old result) (hsame : result.2 = false) : result.1 ≤ old := by
  intro k s hks
  cases hold : old.contains k s with
  | true => rfl
  | false =>
      have hchanged := h.changed_iff.mpr ⟨k, s, hks, hold⟩
      rw [hsame] at hchanged
      cases hchanged

/-- No change is reported exactly when all sets have kept their members. -/
theorem unchanged_iff (h : Grows old result) :
    result.2 = false ↔ ∀ k s, result.1.contains k s = old.contains k s := by
  constructor
  · exact fun hsame => contains_eq_of_le_of_le (h.le_of_unchanged hsame) h.le
  · intro hsame
    rw [Bool.eq_false_iff]
    intro hchanged
    obtain ⟨k, s, hnew, hold⟩ := h.changed_iff.mp hchanged
    rw [← hsame k s, hnew] at hold
    cases hold

end Grows

variable {α : Type} {update : α → SymbolSets → SymbolSets × Bool}

/-- After a sweep without change no update has anything to add. -/
theorem update_sweep_le (hgrows : ∀ x sets, Grows sets (update x sets))
    (hmono : ∀ x a b, a ≤ b → (update x a).1 ≤ (update x b).1) {xs : List α} {sets : SymbolSets}
    (h : (sweep update xs sets).2 = false) {x : α} (hx : x ∈ xs) :
    (update x (sweep update xs sets).1).1 ≤ (sweep update xs sets).1 := by
  induction xs generalizing sets with
  | nil => cases hx
  | cons y xs ih =>
      rw [sweep, Bool.or_eq_false_iff] at h
      obtain ⟨hhead, htail⟩ := h
      rcases List.mem_cons.mp hx with rfl | hx
      · have hrest := grows_sweep hgrows xs (update x sets).1
        have hback : (sweep update xs (update x sets).1).1 ≤ sets :=
          le_trans (hrest.le_of_unchanged htail) ((hgrows x sets).le_of_unchanged hhead)
        exact le_trans (hmono x _ _ hback) hrest.le
      · exact ih htail hx

end SymbolSets

end Predictive
