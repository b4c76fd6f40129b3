import Predictive.Association
import Predictive.Decrease
import Predictive.Saturation
import Predictive.Symbol.Basic

/-!
# Symbol sets

`SymbolSets` gives a set of symbols to each of finitely many keys. FIRST and FOLLOW are such maps.
A set is a list in which only membership matters, so `contains` is the view through which the
operations are described: `contains_extend` says what `extend` does to it, and `extend_snd` that
`extend` reports a change exactly when the view changed.

A key has an entry as soon as the map was extended for it, even when nothing was added.

`Grows` collects what every sweep that extends a map has in common: nothing is lost, and a change is
reported exactly when something was gained.
`room` counts the pairs of a key and a symbol that are still missing, out of finitely many.
`room_lt` says that it decreases with every reported change; this ends the search for stable sets.
-/

namespace Predictive

structure SymbolSets where
  entries : List (Symbol × List Symbol)
deriving DecidableEq

namespace SymbolSets

def empty : SymbolSets := ⟨[]⟩

def ofKeys (keys : List Symbol) : SymbolSets :=
  ⟨keys.map fun k => (k, [])⟩

def get? (sets : SymbolSets) (key : Symbol) : Option (List Symbol) :=
  sets.entries.lookup key

def members (sets : SymbolSets) (key : Symbol) : List Symbol :=
  (sets.get? key).getD []

def contains (sets : SymbolSets) (key s : Symbol) : Bool :=
  (sets.members key).contains s

/-- The number of keys with an entry. -/
def size (sets : SymbolSets) : Nat := sets.entries.length

def keys (sets : SymbolSets) : List Symbol := sets.entries.map Prod.fst

/-- Every symbol that is in some set. -/
def letters (sets : SymbolSets) : List Symbol := sets.entries.flatMap Prod.snd

/-- Adds symbols to the set of `key`, and says whether it grew. -/
def extend (sets : SymbolSets) (key : Symbol) (symbols : List Symbol) : SymbolSets × Bool :=
  let old := sets.members key
  let new := symbols.filter fun s => !old.contains s
  (⟨insertKey key (old ++ new) sets.entries⟩, !new.isEmpty)

/-- All symbols of all sets are among `letters`, and their keys among `keys`. -/
def Within (keys letters : List Symbol) (sets : SymbolSets) : Prop :=
  ∀ k s, sets.contains k s = true → k ∈ keys ∧ s ∈ letters

/-- The number of pairs of a key and a letter that are not in the sets. -/
def room (keys letters : List Symbol) (sets : SymbolSets) : Nat :=
  (keys.flatMap fun k => letters.map fun s => (k, s)).countP fun p => !sets.contains p.1 p.2

/-- The result of an operation that loses nothing, and that reports a change exactly when something
was gained. -/
structure Grows (old : SymbolSets) (result : SymbolSets × Bool) : Prop where
  mono : ∀ k s, old.contains k s = true → result.1.contains k s = true
  changed_iff : result.2 = true ↔ ∃ k s, result.1.contains k s = true ∧ old.contains k s = false

theorem members_extend (sets : SymbolSets) (key k : Symbol) (symbols : List Symbol) :
    (sets.extend key symbols).1.members k =
      if k = key then sets.members key ++ symbols.filter fun s => !(sets.members key).contains s
      else sets.members k := by
  unfold extend members get?
  split
  · next h => rw [h, lookup_insertKey_self, Option.getD_some]
  · next h => rw [lookup_insertKey_of_ne h]

theorem contains_iff (sets : SymbolSets) (key s : Symbol) :
    sets.contains key s = true ↔ s ∈ sets.members key := by
  simp [contains]

theorem contains_extend (sets : SymbolSets) (key k s : Symbol) (symbols : List Symbol) :
    (sets.extend key symbols).1.contains k s = true ↔
      sets.contains k s = true ∨ k = key ∧ s ∈ symbols := by
  rw [contains_iff, contains_iff, members_extend]
  by_cases h : k = key
  · subst h
    by_cases hs : s ∈ sets.members k <;> simp [hs]
  · simp [h]

theorem extend_snd (sets : SymbolSets) (key : Symbol) (symbols : List Symbol) :
    (sets.extend key symbols).2 = true ↔ ∃ s ∈ symbols, sets.contains key s = false := by
  simp [extend, contains, List.filter_eq_nil_iff]

theorem grows_extend (sets : SymbolSets) (key : Symbol) (symbols : List Symbol) :
    Grows sets (sets.extend key symbols) where
  mono k s h := (contains_extend sets key k s symbols).mpr (.inl h)
  changed_iff := by
    rw [extend_snd]
    constructor
    · rintro ⟨s, hs, hnew⟩
      exact ⟨key, s, (contains_extend sets key key s symbols).mpr (.inr ⟨rfl, hs⟩), hnew⟩
    · rintro ⟨k, s, hs, hnew⟩
      rcases (contains_extend sets key k s symbols).mp hs with h | ⟨rfl, h⟩
      · rw [h] at hnew
        cases hnew
      · exact ⟨s, h, hnew⟩

namespace Grows

theorem refl (sets : SymbolSets) : Grows sets (sets, false) where
  mono _ _ h := h
  changed_iff := by
    constructor
    · intro h
      cases h
    · rintro ⟨k, s, h, h'⟩
      rw [h] at h'
      cases h'

theorem trans {old : SymbolSets} {r₁ r₂ : SymbolSets × Bool} (h₁ : Grows old r₁)
    (h₂ : Grows r₁.1 r₂) : Grows old (r₂.1, r₁.2 || r₂.2) where
  mono k s h := h₂.mono k s (h₁.mono k s h)
  changed_iff := by
    simp only [Bool.or_eq_true, h₁.changed_iff, h₂.changed_iff]
    constructor
    · rintro (⟨k, s, h, hnew⟩ | ⟨k, s, h, hnew⟩)
      · exact ⟨k, s, h₂.mono k s h, hnew⟩
      · refine ⟨k, s, h, ?_⟩
        cases hold : old.contains k s with
        | false => rfl
        | true =>
            rw [h₁.mono k s hold] at hnew
            cases hnew
    · rintro ⟨k, s, h, hnew⟩
      cases hmid : r₁.1.contains k s with
      | false => exact .inr ⟨k, s, h, hmid⟩
      | true => exact .inl ⟨k, s, hmid, hnew⟩

end Grows

theorem grows_sweep {α : Type} {update : α → SymbolSets → SymbolSets × Bool}
    (hupdate : ∀ x sets, Grows sets (update x sets)) (xs : List α) (sets : SymbolSets) :
    Grows sets (sweep update xs sets) := by
  induction xs generalizing sets with
  | nil => exact .refl sets
  | cons x xs ih => exact (hupdate x sets).trans (ih (update x sets).1)

theorem within_extend {keys letters symbols : List Symbol} {sets : SymbolSets} {key : Symbol}
    (h : Within keys letters sets) (hkey : key ∈ keys) (hsymbols : ∀ s ∈ symbols, s ∈ letters) :
    Within keys letters (sets.extend key symbols).1 := by
  intro k s hks
  rcases (contains_extend sets key k s symbols).mp hks with h' | ⟨rfl, h'⟩
  · exact h k s h'
  · exact ⟨hkey, hsymbols s h'⟩

theorem within_keys_letters (sets : SymbolSets) : Within sets.keys sets.letters sets := by
  intro k s h
  rw [contains_iff, members, get?] at h
  cases hl : sets.entries.lookup k with
  | none => simp [hl] at h
  | some set =>
      have hmem : (k, set) ∈ sets.entries := by
        obtain ⟨l₁, l₂, heq, -⟩ := List.lookup_eq_some_iff.mp hl
        simp [heq]
      simp only [hl, Option.getD_some] at h
      exact ⟨List.mem_map_of_mem (f := Prod.fst) hmem,
        List.mem_flatMap.mpr ⟨(k, set), hmem, h⟩⟩

theorem Within.mono {keys keys' letters letters' : List Symbol} {sets : SymbolSets}
    (h : Within keys letters sets) (hkeys : keys ⊆ keys') (hletters : letters ⊆ letters') :
    Within keys' letters' sets :=
  fun k s hks => ⟨hkeys (h k s hks).1, hletters (h k s hks).2⟩

theorem room_lt {keys letters : List Symbol} {old : SymbolSets} {result : SymbolSets × Bool}
    (hgrows : Grows old result) (hwithin : Within keys letters result.1)
    (hchanged : result.2 = true) : room keys letters result.1 < room keys letters old := by
  obtain ⟨k, s, hnew, hold⟩ := hgrows.changed_iff.mp hchanged
  obtain ⟨hk, hs⟩ := hwithin k s hnew
  apply countP_lt_countP (a := (k, s))
  · rintro ⟨k', s'⟩ - h
    simp only [Bool.not_eq_true'] at h ⊢
    cases hc : old.contains k' s' with
    | false => rfl
    | true =>
        rw [hgrows.mono k' s' hc] at h
        cases h
  · exact List.mem_flatMap.mpr ⟨k, hk, List.mem_map_of_mem hs⟩
  · simp [hnew]
  · simp [hold]

end SymbolSets

end Predictive
