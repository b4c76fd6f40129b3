import Predictive.Proofs.Registration

/-!
# The predictive parser of a table

A parser holds a stack of symbols that it still has to match, top first, and the rest of its input.
A terminal or the end marker on top is consumed together with the same symbol of the input. A
non-terminal on top is replaced by an alternative that its cell for the next symbol registers; where
a cell is in conflict any of its alternatives may be chosen, so `Moves` is a relation.

The parser accepts a word when it can match the start symbol and the end marker behind it with the
word and the end marker behind it.
-/

namespace Predictive

/-- A symbol that an input can hold. -/
def Symbol.IsInput (s : Symbol) : Prop :=
  s.isTerminal = true ∨ s = .endMarker

theorem Symbol.IsInput.ne_epsilon {s : Symbol} (h : s.IsInput) : s ≠ .epsilon := by
  rintro rfl
  rcases h with h | h <;> cases h

theorem Symbol.IsInput.isNonTerminal_eq_false {s : Symbol} (h : s.IsInput) :
    s.isNonTerminal = false := by
  cases s with
  | nonTerminal name => rcases h with h | h <;> cases h
  | epsilon => rfl
  | endMarker => rfl
  | terminal name => rfl

theorem firstOf_cons_of_isInput (first : SymbolSets) {s : Symbol} (hs : s.IsInput)
    (rest : List Symbol) : firstOf first (s :: rest) = [s] :=
  firstOf_cons_of_isNonTerminal_eq_false first hs.isNonTerminal_eq_false hs.ne_epsilon rest

structure ParserState where
  stack : List Symbol
  input : List Symbol

namespace ParserState

def initial (start : Symbol) (word : List String) : ParserState :=
  ⟨[start, .endMarker], word.map .terminal ++ [.endMarker]⟩

def accepting : ParserState := ⟨[], []⟩

end ParserState

namespace ParsingTable

inductive Moves (table : ParsingTable) : ParserState → ParserState → Prop
  | consume {s : Symbol} (hs : s.IsInput) (stack input : List Symbol) :
      Moves table ⟨s :: stack, s :: input⟩ ⟨stack, input⟩
  | expand {left s : Symbol} {entry : Entry} (hleft : left.isNonTerminal = true)
      (hentry : entry ∈ (table.cell left s).entries) (stack input : List Symbol) :
      Moves table ⟨left :: stack, s :: input⟩ ⟨visible entry.alternative ++ stack, s :: input⟩

def Runs (table : ParsingTable) : ParserState → ParserState → Prop :=
  Relation.ReflTransGen table.Moves

/-- Some run matches the whole word, followed by the end marker. -/
def Accepts (table : ParsingTable) (start : Symbol) (word : List String) : Prop :=
  table.Runs (.initial start word) .accepting

def Deterministic (table : ParsingTable) : Prop :=
  ∀ s s₁ s₂, table.Moves s s₁ → table.Moves s s₂ → s₁ = s₂

def Halts (table : ParsingTable) (s : ParserState) : Prop :=
  Acc (fun next s => table.Moves s next) s

variable {table : ParsingTable}

theorem Halts.of_moves {s next : ParserState} (h : table.Halts s) (hmove : table.Moves s next) :
    table.Halts next :=
  Acc.inv h hmove

/-- Without choices one run that leads to a halting state is enough. -/
theorem Deterministic.halts_of_runs (hdet : table.Deterministic) {s s' : ParserState}
    (hruns : table.Runs s s') (h : table.Halts s') : table.Halts s := by
  induction hruns using Relation.ReflTransGen.head_induction_on with
  | refl => exact h
  | head hmove _ ih => exact Acc.intro _ fun next hnext => hdet _ _ _ hmove hnext ▸ ih

end ParsingTable

/-! ### Cells -/

namespace Grammar

variable {g : Grammar} {first follow : SymbolSets}

theorem WellFormed.exists_mem_entries (hg : g.WellFormed) {left s : Symbol} {a : Alternative}
    (hrule : (left, a) ∈ g.rules) (hs : s ∈ lookaheads first follow left a) :
    ∃ i, ⟨i, a⟩ ∈ ((g.parsingTable first follow).cell left s).entries := by
  obtain ⟨p, hp, rfl, ha⟩ := (mem_rules_iff g left a).mp hrule
  obtain ⟨i, hi⟩ := List.getElem?_of_mem ha
  exact ⟨i, hg.mem_entries (hg.production?_left hp) hi hs⟩

theorem mem_lookaheads_of_mem_firstOf_append {left s t : Symbol} {a : Alternative}
    (ht : t.IsInput) (hfollow : follow.contains left t = true)
    (h : s ∈ firstOf first (a ++ [t])) : s ∈ lookaheads first follow left a := by
  rw [mem_firstOf_append, firstOf_cons_of_isInput first ht, List.mem_singleton] at h
  rcases h with h | ⟨hvanishes, rfl⟩
  · exact mem_lookaheads.mpr (.inl h)
  · exact mem_lookaheads.mpr (.inr ⟨hvanishes, hfollow⟩)

theorem WellFormed.expand_moves (hg : g.WellFormed) {left s : Symbol} {a : Alternative}
    (hleft : left.isNonTerminal = true) (hrule : (left, a) ∈ g.rules)
    (hs : s ∈ lookaheads first follow left a) (stack input : List Symbol) :
    (g.parsingTable first follow).Moves ⟨left :: stack, s :: input⟩
      ⟨visible a ++ stack, s :: input⟩ := by
  obtain ⟨i, hi⟩ := hg.exists_mem_entries hrule hs
  exact .expand hleft hi stack input

end Grammar

end Predictive
