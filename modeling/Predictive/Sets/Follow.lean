import Predictive.Sets.First

/-!
# FOLLOW

An occurrence of a non-terminal `B` in an alternative of `A` is followed there by some rest `β`.
`followPass` goes over all occurrences in order: it extends the set of `B` by the FIRST of `β`, `ε`
excepted, and when `β` can vanish also by the set of `A`.

`followFrom` repeats the pass until it changes nothing. For the FOLLOW sets of a grammar it starts
from the end marker in the set of the start symbol.
-/

namespace Predictive

/-- A non-terminal in an alternative of `left`, and what comes after it. -/
structure Occurrence where
  left : Symbol
  symbol : Symbol
  rest : List Symbol

namespace Occurrence

def inSequence (left : Symbol) : List Symbol → List Occurrence
  | [] => []
  | s :: rest =>
    if s.isNonTerminal then ⟨left, s, rest⟩ :: inSequence left rest else inSequence left rest

theorem mem_inSequence {left : Symbol} {sequence : List Symbol} {o : Occurrence}
    (h : o ∈ inSequence left sequence) :
    o.left = left ∧ o.symbol ∈ sequence ∧ o.rest ⊆ sequence := by
  induction sequence with
  | nil => cases h
  | cons s rest ih =>
      rw [inSequence] at h
      split at h
      · rcases List.mem_cons.mp h with rfl | h
        · exact ⟨rfl, List.mem_cons_self, List.subset_cons_self _ _⟩
        · obtain ⟨h₁, h₂, h₃⟩ := ih h
          exact ⟨h₁, List.mem_cons_of_mem _ h₂, fun x hx => List.mem_cons_of_mem _ (h₃ hx)⟩
      · obtain ⟨h₁, h₂, h₃⟩ := ih h
        exact ⟨h₁, List.mem_cons_of_mem _ h₂, fun x hx => List.mem_cons_of_mem _ (h₃ hx)⟩

end Occurrence

namespace Grammar

/-- The occurrences of non-terminals on right sides, in order. -/
def occurrences (g : Grammar) : List Occurrence :=
  g.rules.flatMap fun r => Occurrence.inSequence r.1 r.2

def used (g : Grammar) : List Symbol :=
  g.occurrences.map Occurrence.symbol

/-- Extends the set of a non-terminal by what can follow one occurrence of it. -/
def followUpdate (first : SymbolSets) (o : Occurrence) (follow : SymbolSets) :
    SymbolSets × Bool :=
  let next := firstOf first o.rest
  let inside := follow.extend o.symbol (withoutEpsilon next)
  if next.contains .epsilon then
    let after := inside.1.extend o.symbol (inside.1.members o.left)
    (after.1, inside.2 || after.2)
  else inside

/-- Extends the FOLLOW sets once for every occurrence, and says whether any of them grew. -/
def followPass (g : Grammar) (first follow : SymbolSets) : SymbolSets × Bool :=
  sweep (followUpdate first) g.occurrences follow

theorem grows_followUpdate (first : SymbolSets) (o : Occurrence) (follow : SymbolSets) :
    SymbolSets.Grows follow (followUpdate first o follow) := by
  unfold followUpdate
  dsimp only
  split
  · exact (SymbolSets.grows_extend _ _ _).trans (SymbolSets.grows_extend _ _ _)
  · exact SymbolSets.grows_extend _ _ _

theorem grows_followPass (g : Grammar) (first follow : SymbolSets) :
    SymbolSets.Grows follow (g.followPass first follow) :=
  SymbolSets.grows_sweep (grows_followUpdate first) g.occurrences follow

theorem within_followPass (g : Grammar) {first : SymbolSets} {keys letters : List Symbol}
    (hkeys : g.used ⊆ keys) (hgrammar : g.letters ⊆ letters) (hfirst : first.letters ⊆ letters)
    {follow : SymbolSets} (h : follow.Within keys letters) :
    (g.followPass first follow).1.Within keys letters := by
  refine sweep_of_update ?_ h
  intro o ho sets hsets
  have hkey : o.symbol ∈ keys := hkeys (List.mem_map_of_mem ho)
  obtain ⟨⟨left, alternative⟩, hrule, hocc⟩ := List.mem_flatMap.mp ho
  have hrest : ∀ s ∈ o.rest, s ∈ letters := fun s hs =>
    hgrammar (List.mem_cons_of_mem _ (List.mem_cons_of_mem _
      (List.mem_flatMap.mpr ⟨(left, alternative), hrule, (Occurrence.mem_inSequence hocc).2.2 hs⟩)))
  have hinside : (sets.extend o.symbol (withoutEpsilon (firstOf first o.rest))).1.Within
      keys letters := by
    refine SymbolSets.within_extend hsets hkey ?_
    intro s hs
    rcases mem_of_mem_firstOf (mem_withoutEpsilon.mp hs).1 with rfl | hs | ⟨k, hk⟩
    · exact hgrammar List.mem_cons_self
    · exact hrest s hs
    · exact hfirst (first.within_keys_letters k s hk).2
  unfold followUpdate
  dsimp only
  split
  · refine SymbolSets.within_extend hinside hkey ?_
    intro s hs
    exact (hinside o.left s ((SymbolSets.contains_iff _ _ _).mpr hs)).2
  · exact hinside

/-- Repeats the FOLLOW pass from given sets until it changes nothing. -/
def followFrom (g : Grammar) (first start : SymbolSets) : Stable SymbolSets :=
  let keys := start.keys ++ g.used
  let letters := start.letters ++ (g.letters ++ first.letters)
  have keeps : ∀ follow : SymbolSets, follow.Within keys letters →
      (g.followPass first follow).1.Within keys letters := fun _ h =>
    g.within_followPass (List.subset_append_right _ _)
      (fun _ hs => List.mem_append_right _ (List.mem_append_left _ hs))
      (fun _ hs => List.mem_append_right _ (List.mem_append_right _ hs)) h
  untilStable (g.followPass first) (SymbolSets.Within keys letters) (SymbolSets.room keys letters)
    keeps
    (fun follow h hchanged =>
      SymbolSets.room_lt (g.grows_followPass first follow) (keeps follow h) hchanged)
    start
    (start.within_keys_letters.mono (List.subset_append_left _ _) (List.subset_append_left _ _))

/-- The sets from which the FOLLOW sets of a grammar with the given start symbol grow. -/
def followStart (g : Grammar) (start : Symbol) : SymbolSets :=
  ((SymbolSets.ofKeys g.nonTerminals).extend start [.endMarker]).1

/-- The FOLLOW sets of a valid grammar, with an entry for each of its non-terminals. -/
def followSets (g : Grammar) (first : SymbolSets) : Except GrammarError (Stable SymbolSets) := do
  g.validate
  match g.start? with
  | some start => return g.followFrom first (g.followStart start)
  | none => throw .empty

end Grammar

end Predictive
