import Predictive.Grammar.Basic
import Predictive.Saturation
import Predictive.Sets.Basic

/-!
# FIRST

`firstOf first α` is the set of symbols that a word derived from `α` can begin with, read off given
sets for the non-terminals; it contains `ε` when every symbol of `α` can vanish. `firstPass`
extends the set of every left side by the FIRST of its alternatives, rule by rule in order, so that
a rule sees what the rules before it have added.

`firstFrom` repeats the pass until it changes nothing. It ends because only left sides get symbols,
and only symbols that occur in the grammar or in the sets at the start.
-/

namespace Predictive

def union (a b : List Symbol) : List Symbol :=
  a ++ b.filter fun s => !a.contains s

theorem mem_union {a b : List Symbol} {s : Symbol} : s ∈ union a b ↔ s ∈ a ∨ s ∈ b := by
  by_cases h : s ∈ a <;> simp [union, h]

def withoutEpsilon (set : List Symbol) : List Symbol :=
  set.filter (· != .epsilon)

theorem mem_withoutEpsilon {set : List Symbol} {s : Symbol} :
    s ∈ withoutEpsilon set ↔ s ∈ set ∧ s ≠ .epsilon := by
  simp [withoutEpsilon]

/-- What a word derived from a sequence can begin with, given sets for the non-terminals. -/
def firstOf (first : SymbolSets) : List Symbol → List Symbol
  | [] => [.epsilon]
  | .epsilon :: rest => firstOf first rest
  | .endMarker :: _ => [.endMarker]
  | .terminal name :: _ => [.terminal name]
  | .nonTerminal name :: rest =>
    let own := first.members (.nonTerminal name)
    if own.contains .epsilon then union (withoutEpsilon own) (firstOf first rest)
    else withoutEpsilon own

theorem firstOf_nil (first : SymbolSets) : firstOf first [] = [.epsilon] := rfl

/-- FIRST of a sequence has only `ε`, symbols of the sequence and members of the given sets. -/
theorem mem_of_mem_firstOf {first : SymbolSets} {sequence : List Symbol} {s : Symbol}
    (h : s ∈ firstOf first sequence) :
    s = .epsilon ∨ s ∈ sequence ∨ ∃ k, first.contains k s = true := by
  fun_induction firstOf first sequence with
  | case1 => exact .inl (List.mem_singleton.mp h)
  | case2 rest ih =>
      rcases ih h with h | h | h
      · exact .inl h
      · exact .inr (.inl (List.mem_cons_of_mem _ h))
      · exact .inr (.inr h)
  | case3 rest => exact .inr (.inl (List.mem_singleton.mp h ▸ List.mem_cons_self))
  | case4 rest name => exact .inr (.inl (List.mem_singleton.mp h ▸ List.mem_cons_self))
  | case5 name rest own _ ih =>
      rcases mem_union.mp h with h | h
      · exact .inr (.inr ⟨.nonTerminal name,
          (SymbolSets.contains_iff first _ s).mpr (mem_withoutEpsilon.mp h).1⟩)
      · rcases ih h with h | h | h
        · exact .inl h
        · exact .inr (.inl (List.mem_cons_of_mem _ h))
        · exact .inr (.inr h)
  | case6 name rest own _ =>
      exact .inr (.inr ⟨.nonTerminal name,
        (SymbolSets.contains_iff first _ s).mpr (mem_withoutEpsilon.mp h).1⟩)

namespace Grammar

/-- The symbols that can be members of FIRST and FOLLOW sets of a grammar. -/
def letters (g : Grammar) : List Symbol :=
  .epsilon :: .endMarker :: g.rules.flatMap fun r => r.2

def lefts (g : Grammar) : List Symbol :=
  g.rules.map Prod.fst

/-- Extends the set of the left side of a rule by the FIRST of its alternative. -/
def firstUpdate (rule : Symbol × Alternative) (first : SymbolSets) : SymbolSets × Bool :=
  first.extend rule.1 (firstOf first rule.2)

/-- Extends the FIRST sets once for every rule, and says whether any of them grew. -/
def firstPass (g : Grammar) (first : SymbolSets) : SymbolSets × Bool :=
  sweep firstUpdate g.rules first

theorem grows_firstUpdate (rule : Symbol × Alternative) (first : SymbolSets) :
    SymbolSets.Grows first (firstUpdate rule first) :=
  SymbolSets.grows_extend first rule.1 _

theorem grows_firstPass (g : Grammar) (first : SymbolSets) :
    SymbolSets.Grows first (g.firstPass first) :=
  SymbolSets.grows_sweep grows_firstUpdate g.rules first

theorem within_firstPass (g : Grammar) {keys letters : List Symbol} (hkeys : g.lefts ⊆ keys)
    (hletters : g.letters ⊆ letters) {first : SymbolSets} (h : first.Within keys letters) :
    (g.firstPass first).1.Within keys letters := by
  refine sweep_of_update ?_ h
  rintro ⟨left, alternative⟩ hrule sets hsets
  refine SymbolSets.within_extend hsets (hkeys (List.mem_map_of_mem (f := Prod.fst) hrule)) ?_
  intro s hs
  rcases mem_of_mem_firstOf hs with rfl | hs | ⟨k, hk⟩
  · exact hletters List.mem_cons_self
  · refine hletters (List.mem_cons_of_mem _ (List.mem_cons_of_mem _ ?_))
    exact List.mem_flatMap.mpr ⟨(left, alternative), hrule, hs⟩
  · exact (hsets k s hk).2

/-- Repeats the FIRST pass from given sets until it changes nothing. -/
def firstFrom (g : Grammar) (start : SymbolSets) : Stable SymbolSets :=
  let keys := start.keys ++ g.lefts
  let letters := start.letters ++ g.letters
  have keeps : ∀ first : SymbolSets, first.Within keys letters →
      (g.firstPass first).1.Within keys letters := fun _ h =>
    g.within_firstPass (List.subset_append_right _ _) (List.subset_append_right _ _) h
  untilStable g.firstPass (SymbolSets.Within keys letters) (SymbolSets.room keys letters) keeps
    (fun first h hchanged => SymbolSets.room_lt (g.grows_firstPass first) (keeps first h) hchanged)
    start
    (start.within_keys_letters.mono (List.subset_append_left _ _) (List.subset_append_left _ _))

/-- The FIRST sets of a valid grammar, with an entry for each of its non-terminals. -/
def firstSets (g : Grammar) : Except GrammarError (Stable SymbolSets) := do
  g.validate
  return g.firstFrom (.ofKeys g.nonTerminals)

end Grammar

end Predictive
