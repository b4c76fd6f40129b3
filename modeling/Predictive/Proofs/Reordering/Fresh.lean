import Predictive.Proofs.Factoring.Language
import Predictive.Proofs.LeftRecursion.Rules

/-!
# New names do not get in each other's way

A fresh name is the first candidate for its base that is not taken. So it depends on nothing but
which candidates for this base are taken, and a candidate for one base is none for another: the base
is what stands in front of the last apostrophe (`candidate_eq_candidate_iff`).

A pass and an elimination name new non-terminals after left sides. When no two left sides have the
same name, every production is treated as if it were the only one, with the names that the table
held at the start (`factorProductions_eq`, `eliminateProductions_eq`); the order of the productions
decides about the order of the result only.
-/

namespace Predictive

namespace SymbolTable

/-! ### Candidates -/

theorem exists_toList_candidate_eq (base : String) (n : ℕ) :
    ∃ digits, (candidate base n).toList = base.toList ++ '\'' :: digits ∧ '\'' ∉ digits := by
  cases n with
  | zero => exact ⟨[], toList_candidate_zero base, by simp⟩
  | succ n =>
      refine ⟨_, toList_candidate_succ base n, fun hmem => ?_⟩
      exact absurd (Nat.isDigit_of_mem_toDigits (by decide) (by decide) hmem) (by decide)

theorem eq_of_append_cons_eq {c : Char} {as bs xs ys : List Char} (hxs : c ∉ xs) (hys : c ∉ ys)
    (h : as ++ c :: xs = bs ++ c :: ys) : as = bs := by
  rcases List.append_eq_append_iff.mp h with ⟨part, rfl, hpart⟩ | ⟨part, rfl, hpart⟩
  · cases part with
    | nil => exact (List.append_nil as).symm
    | cons x part =>
        obtain ⟨-, rfl⟩ := List.cons.inj hpart
        simp at hxs
  · cases part with
    | nil => exact List.append_nil bs
    | cons x part =>
        obtain ⟨-, rfl⟩ := List.cons.inj hpart
        simp at hys

theorem candidate_eq_candidate_iff {base base' : String} {m n : ℕ} :
    candidate base m = candidate base' n ↔ base = base' ∧ m = n := by
  refine ⟨fun h => ?_, fun ⟨hbase, hn⟩ => hbase ▸ hn ▸ rfl⟩
  obtain ⟨digits, heq, hdigits⟩ := exists_toList_candidate_eq base m
  obtain ⟨digits', heq', hdigits'⟩ := exists_toList_candidate_eq base' n
  rw [h, heq'] at heq
  have hbase : base = base' :=
    String.toList_inj.mp (eq_of_append_cons_eq hdigits' hdigits heq).symm
  exact ⟨hbase, candidate_injective (hbase ▸ h)⟩

def SameCandidates (base : String) (table table' : SymbolTable) : Prop :=
  ∀ n, candidate base n ∈ table.names ↔ candidate base n ∈ table'.names

variable {base : String} {table table' : SymbolTable}

theorem sameCandidates_of_perm (h : table.named.Perm table'.named) (base : String) :
    SameCandidates base table table' :=
  fun _ => (h.map Symbol.name).mem_iff

namespace SameCandidates

theorem refl (base : String) (table : SymbolTable) : SameCandidates base table table :=
  fun _ => Iff.rfl

theorem symm (h : SameCandidates base table table') : SameCandidates base table' table :=
  fun n => (h n).symm

theorem trans {table'' : SymbolTable} (h : SameCandidates base table table')
    (h' : SameCandidates base table' table'') : SameCandidates base table table'' :=
  fun n => (h n).trans (h' n)

theorem fst_fresh_eq (h : SameCandidates base table table') :
    (table.fresh base).1 = (table'.fresh base).1 := by
  rw [fresh, fresh, freshName, freshName, freshIndex_eq h]

theorem push (h : SameCandidates base table table') (s : Symbol) :
    SameCandidates base (table.push s) (table'.push s) := by
  intro n
  rw [names_push, names_push, List.mem_append, List.mem_append, h n]

theorem fresh (h : SameCandidates base table table') :
    SameCandidates base (table.fresh base).2 (table'.fresh base).2 := by
  change SameCandidates base (table.push (table.fresh base).1) (table'.push (table'.fresh base).1)
  rw [h.fst_fresh_eq]
  exact h.push _

end SameCandidates

/-- A new name for another base takes no candidate. -/
theorem sameCandidates_fresh {other : String} (hne : base ≠ other) (table : SymbolTable) :
    SameCandidates base table (table.fresh other).2 := by
  intro n
  have hname : candidate base n ≠ table.freshName other := fun heq =>
    hne (candidate_eq_candidate_iff.mp heq).1
  simp [SymbolTable.fresh, names_push, Symbol.name, hname]

end SymbolTable

open SymbolTable

/-! ### A pass -/

section Groups

variable {left : Symbol} {symbols symbols' : SymbolTable}

/-- What becomes of the groups of a production depends on the candidates for its left side only. -/
theorem factorGroups_congr (h : SameCandidates left.name symbols symbols') (groups : List Group) :
    (factorGroups left symbols groups).alternatives =
        (factorGroups left symbols' groups).alternatives ∧
      (factorGroups left symbols groups).productions =
        (factorGroups left symbols' groups).productions ∧
      (factorGroups left symbols groups).splits = (factorGroups left symbols' groups).splits := by
  induction groups generalizing symbols symbols' with
  | nil => exact ⟨rfl, rfl, rfl⟩
  | cons group rest ih =>
      cases group with
      | single a =>
          obtain ⟨halternatives, hproductions, hsplits⟩ := ih h
          exact ⟨congrArg (a :: ·) halternatives, hproductions, hsplits⟩
      | shared s suffixes =>
          obtain ⟨halternatives, hproductions, hsplits⟩ := ih h.fresh
          simp only [factorGroups, h.fst_fresh_eq, halternatives, hproductions, hsplits, and_self]

theorem sameCandidates_factorGroups {base : String} (hne : base ≠ left.name)
    (symbols : SymbolTable) (groups : List Group) :
    SameCandidates base symbols (factorGroups left symbols groups).symbols := by
  induction groups generalizing symbols with
  | nil => exact .refl base symbols
  | cons group rest ih =>
      cases group with
      | single a => exact ih symbols
      | shared s suffixes => exact (sameCandidates_fresh hne symbols).trans (ih _)

end Groups

/-- What a pass puts in the place of a production that is the only one. -/
def factoredAlone (symbols : SymbolTable) (p : Production) : List Production :=
  let f := factorGroups p.left symbols (Group.ofAlternatives p.alternatives)
  ⟨p.left, f.alternatives⟩ :: f.productions

def splitsAlone (symbols : SymbolTable) (p : Production) : List Split :=
  (factorGroups p.left symbols (Group.ofAlternatives p.alternatives)).splits

/-- A pass treats every production as if it were the only one. -/
theorem factorProductions_eq {symbols₀ symbols : SymbolTable} {productions : List Production}
    (hnodup : (productions.map fun p => p.left.name).Nodup)
    (hsame : ∀ p ∈ productions, SameCandidates p.left.name symbols₀ symbols) :
    (factorProductions symbols productions).productions =
        productions.flatMap (factoredAlone symbols₀) ∧
      (factorProductions symbols productions).splits =
        productions.flatMap (splitsAlone symbols₀) := by
  induction productions generalizing symbols with
  | nil => exact ⟨rfl, rfl⟩
  | cons p rest ih =>
      obtain ⟨hp, hrest⟩ := List.nodup_cons.mp hnodup
      obtain ⟨hhead, htail⟩ := List.forall_mem_cons.mp hsame
      obtain ⟨halternatives, hproductions, hsplits⟩ :=
        factorGroups_congr hhead.symm (Group.ofAlternatives p.alternatives)
      have hnext : ∀ q ∈ rest, SameCandidates q.left.name symbols₀
          (factorGroups p.left symbols (Group.ofAlternatives p.alternatives)).symbols := by
        intro q hq
        have hne : q.left.name ≠ p.left.name := fun heq =>
          hp (List.mem_map.mpr ⟨q, hq, heq⟩)
        exact (htail q hq).trans (sameCandidates_factorGroups hne symbols _)
      obtain ⟨hproductions', hsplits'⟩ := ih hrest hnext
      rw [factorProductions, List.flatMap_cons, List.flatMap_cons, hproductions', hsplits',
        factoredAlone, splitsAlone, halternatives, hproductions, hsplits]
      exact ⟨rfl, rfl⟩

/-! ### An elimination -/

def eliminatedAlone (symbols : SymbolTable) (p : Production) : List Production :=
  if p.recursive.isEmpty then [p]
  else [p.withTail (symbols.fresh p.left.name).1, p.tailProduction (symbols.fresh p.left.name).1]

def removalsAlone (symbols : SymbolTable) (p : Production) : List Removal :=
  if p.recursive.isEmpty then []
  else [⟨p.left, p.recursive.length, (symbols.fresh p.left.name).1⟩]

/-- An elimination treats every production as if it were the only one. -/
theorem eliminateProductions_eq {symbols₀ symbols : SymbolTable} {productions : List Production}
    (hnodup : (productions.map fun p => p.left.name).Nodup)
    (hsame : ∀ p ∈ productions, SameCandidates p.left.name symbols₀ symbols) :
    (eliminateProductions symbols productions).productions =
        productions.flatMap (eliminatedAlone symbols₀) ∧
      (eliminateProductions symbols productions).removals =
        productions.flatMap (removalsAlone symbols₀) := by
  induction productions generalizing symbols with
  | nil => exact ⟨rfl, rfl⟩
  | cons p rest ih =>
      obtain ⟨hp, hrest⟩ := List.nodup_cons.mp hnodup
      obtain ⟨hhead, htail⟩ := List.forall_mem_cons.mp hsame
      rw [List.flatMap_cons, List.flatMap_cons, eliminatedAlone, removalsAlone]
      by_cases hrecursive : p.recursive = []
      · obtain ⟨hproductions, hremovals⟩ := ih hrest htail
        rw [eliminateProductions_cons_of_nil symbols rest hrecursive, hproductions, hremovals,
          hrecursive]
        exact ⟨rfl, rfl⟩
      · have hnext : ∀ q ∈ rest, SameCandidates q.left.name symbols₀
            (symbols.fresh p.left.name).2 := by
          intro q hq
          have hne : q.left.name ≠ p.left.name := fun heq =>
            hp (List.mem_map.mpr ⟨q, hq, heq⟩)
          exact (htail q hq).trans (sameCandidates_fresh hne symbols)
        obtain ⟨hproductions, hremovals⟩ := ih hrest hnext
        rw [eliminateProductions_cons_of_ne_nil symbols rest hrecursive, hproductions, hremovals,
          hhead.fst_fresh_eq, if_neg (by simpa using hrecursive),
          if_neg (by simpa using hrecursive)]
        exact ⟨rfl, rfl⟩

end Predictive
