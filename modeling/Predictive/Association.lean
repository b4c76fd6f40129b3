/-!
# Association lists

A map with finitely many keys is kept as a list of pairs, with one pair for every key that has been
set. `List.lookup` reads it; `insertKey` sets a key, in the place where it stands or at the end.
-/

namespace Predictive

variable {κ ν : Type} [BEq κ]

/-- Puts a value in the place of the one of `key`, or at the end when there is none. -/
def insertKey (key : κ) (value : ν) : List (κ × ν) → List (κ × ν)
  | [] => [(key, value)]
  | e :: rest => if e.1 == key then (key, value) :: rest else e :: insertKey key value rest

variable [LawfulBEq κ]

theorem lookup_insertKey_self (key : κ) (value : ν) (entries : List (κ × ν)) :
    (insertKey key value entries).lookup key = some value := by
  induction entries with
  | nil => simp [insertKey]
  | cons e rest ih =>
      obtain ⟨key', value'⟩ := e
      by_cases h : key' = key
      · simp [insertKey, h]
      · simp [insertKey, List.lookup_cons, h, beq_false_of_ne (Ne.symm h), ih]

theorem lookup_insertKey_of_ne {key k : κ} (h : k ≠ key) (value : ν) (entries : List (κ × ν)) :
    (insertKey key value entries).lookup k = entries.lookup k := by
  induction entries with
  | nil => simp [insertKey, List.lookup_cons, beq_false_of_ne h]
  | cons e rest ih =>
      obtain ⟨key', value'⟩ := e
      by_cases hkey : key' = key
      · subst hkey
        simp [insertKey, List.lookup_cons, beq_false_of_ne h]
      · simp [insertKey, List.lookup_cons, hkey, ih]

theorem isSome_lookup_iff {key : κ} {entries : List (κ × ν)} :
    (entries.lookup key).isSome = true ↔ key ∈ entries.map Prod.fst := by
  rw [List.lookup_isSome_iff, List.mem_map]
  simp only [beq_iff_eq, @eq_comm _ key]

end Predictive
