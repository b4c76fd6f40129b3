import Mathlib.Computability.Language
import Mathlib.Order.CompletePartialOrder
import Predictive.Proofs.Derivation

/-!
# Languages of a grammar

The language of a non-terminal is the set of words that it derives. An interpretation gives a
language to every non-terminal, and so to every sequence of symbols: `ε` stands for the empty word,
a terminal for itself, and a sequence for the product of its symbols.

An interpretation is closed under a grammar when every alternative stands for a part of the language
of its left side. `language` is the least closed interpretation (`closed_language`,
`language_le_of_closed`). To show that a change of a grammar loses or adds no word it is therefore
enough to give one closed interpretation; no derivation has to be taken apart.
-/

namespace Predictive

abbrev Interpretation := String → Language String

namespace Interpretation

/-- The words that a symbol stands for. The end marker is part of no word. -/
def ofSymbol (L : Interpretation) : Symbol → Language String
  | .epsilon => 1
  | .endMarker => 0
  | .terminal name => {[name]}
  | .nonTerminal name => L name

def ofSequence (L : Interpretation) : List Symbol → Language String
  | [] => 1
  | s :: rest => L.ofSymbol s * L.ofSequence rest

theorem ofSequence_nil (L : Interpretation) : L.ofSequence [] = 1 := rfl

theorem ofSequence_cons (L : Interpretation) (s : Symbol) (rest : List Symbol) :
    L.ofSequence (s :: rest) = L.ofSymbol s * L.ofSequence rest := rfl

theorem ofSequence_epsilon (L : Interpretation) (rest : List Symbol) :
    L.ofSequence (.epsilon :: rest) = L.ofSequence rest :=
  one_mul _

theorem ofSequence_singleton (L : Interpretation) (s : Symbol) :
    L.ofSequence [s] = L.ofSymbol s :=
  mul_one _

theorem ofSequence_append (L : Interpretation) (α β : List Symbol) :
    L.ofSequence (α ++ β) = L.ofSequence α * L.ofSequence β := by
  induction α with
  | nil => rw [List.nil_append, ofSequence_nil, one_mul]
  | cons s α ih => rw [List.cons_append, ofSequence_cons, ih, ofSequence_cons, mul_assoc]

theorem ofSequence_visible (L : Interpretation) (α : List Symbol) :
    L.ofSequence (visible α) = L.ofSequence α := by
  induction α with
  | nil => rfl
  | cons s α ih =>
      by_cases hs : s = .epsilon
      · rw [hs, visible_epsilon, ofSequence_epsilon, ih]
      · rw [visible_cons hs, ofSequence_cons, ofSequence_cons, ih]

theorem ofSequence_orEpsilon (L : Interpretation) (α : List Symbol) :
    L.ofSequence (Alternative.orEpsilon α) = L.ofSequence α := by
  rw [← ofSequence_visible, visible_orEpsilon, ofSequence_visible]

theorem ofSequence_ofSequence (L : Interpretation) (α : List Symbol) :
    L.ofSequence (Alternative.ofSequence α) = L.ofSequence α := by
  rw [← ofSequence_visible, visible_ofSequence, ofSequence_visible]

theorem ofSymbol_mono {L L' : Interpretation} (h : ∀ name, L name ≤ L' name) (s : Symbol) :
    L.ofSymbol s ≤ L'.ofSymbol s := by
  cases s with
  | epsilon => exact le_rfl
  | endMarker => exact le_rfl
  | terminal name => exact le_rfl
  | nonTerminal name => exact h name

theorem ofSequence_mono {L L' : Interpretation} (h : ∀ name, L name ≤ L' name)
    (α : List Symbol) : L.ofSequence α ≤ L'.ofSequence α := by
  induction α with
  | nil => exact le_rfl
  | cons s α ih => exact mul_le_mul' (ofSymbol_mono h s) ih

theorem ofSequence_congr {L L' : Interpretation} {α : List Symbol}
    (h : ∀ name, .nonTerminal name ∈ α → L name = L' name) : L.ofSequence α = L'.ofSequence α := by
  induction α with
  | nil => rfl
  | cons s α ih =>
      have hs : L.ofSymbol s = L'.ofSymbol s := by
        cases s with
        | epsilon => rfl
        | endMarker => rfl
        | terminal name => rfl
        | nonTerminal name => exact h name List.mem_cons_self
      rw [ofSequence_cons, ofSequence_cons, hs,
        ih fun name hname => h name (List.mem_cons_of_mem s hname)]

theorem ofSequence_congr_of_named {L L' : Interpretation} {named α : List Symbol}
    (h : ∀ name, .nonTerminal name ∈ named → L name = L' name)
    (hα : ∀ s ∈ α, s = .epsilon ∨ s ∈ named) : L.ofSequence α = L'.ofSequence α :=
  ofSequence_congr fun name hname => h name ((hα _ hname).resolve_left (by simp))

theorem mem_ofSequence_word (L : Interpretation) (word : List String) :
    word ∈ L.ofSequence (word.map .terminal) := by
  induction word with
  | nil => exact Language.nil_mem_one
  | cons name word ih => exact Language.append_mem_mul (a := [name]) rfl ih

def ofSequences (L : Interpretation) (sequences : List (List Symbol)) : Language String :=
  {word | ∃ α ∈ sequences, word ∈ L.ofSequence α}

theorem ofSequence_le_ofSequences (L : Interpretation) {sequences : List (List Symbol)}
    {α : List Symbol} (h : α ∈ sequences) : L.ofSequence α ≤ L.ofSequences sequences :=
  fun _ hword => ⟨α, h, hword⟩

theorem ofSequences_mul_le {L : Interpretation} {sequences : List (List Symbol)}
    {l m : Language String} (h : ∀ α ∈ sequences, L.ofSequence α * l ≤ m) :
    L.ofSequences sequences * l ≤ m := by
  rintro word ⟨u, ⟨α, hα, hu⟩, v, hv, rfl⟩
  exact h α hα (Language.append_mem_mul hu hv)

theorem mul_ofSequences_le {L : Interpretation} {sequences : List (List Symbol)}
    {l m : Language String} (h : ∀ α ∈ sequences, l * L.ofSequence α ≤ m) :
    l * L.ofSequences sequences ≤ m := by
  rintro word ⟨u, hu, v, ⟨α, hα, hv⟩, rfl⟩
  exact h α hα (Language.append_mem_mul hu hv)

end Interpretation

namespace Grammar

def expand (g : Grammar) (L : Interpretation) : Interpretation :=
  fun name => {word | ∃ a, (.nonTerminal name, a) ∈ g.rules ∧ word ∈ L.ofSequence a}

/-- Every alternative stands for a part of the language of its left side. -/
def Closed (g : Grammar) (L : Interpretation) : Prop :=
  ∀ name a, (.nonTerminal name, a) ∈ g.rules → L.ofSequence a ≤ L name

def language (g : Grammar) : Interpretation :=
  fun name => {word | g.Generates (.nonTerminal name) word}

variable {g : Grammar}

theorem mem_expand {L : Interpretation} {name : String} {word : List String} :
    word ∈ g.expand L name ↔
      ∃ a, (.nonTerminal name, a) ∈ g.rules ∧ word ∈ L.ofSequence a := Iff.rfl

theorem mem_language {name : String} {word : List String} :
    word ∈ g.language name ↔ g.Generates (.nonTerminal name) word := Iff.rfl

theorem mem_ofSequence_language {α : List Symbol} {word : List String} :
    word ∈ g.language.ofSequence α ↔ g.Derives (visible α) (word.map .terminal) := by
  induction α generalizing word with
  | nil =>
      rw [Interpretation.ofSequence_nil, Language.mem_one, visible_nil, derives_nil_iff,
        List.map_eq_nil_iff]
  | cons s α ih =>
      rw [Interpretation.ofSequence_cons]
      cases s with
      | epsilon =>
          rw [visible_epsilon, ← ih]
          exact iff_of_eq (congrArg (word ∈ ·) (one_mul _))
      | endMarker =>
          rw [visible_cons (by decide), derives_cons_iff rfl]
          constructor
          · rintro ⟨_, h, -⟩
            exact absurd h (Language.notMem_zero _)
          · rintro ⟨γ, h, -⟩
            obtain ⟨name, -, hname⟩ := List.mem_map.mp (h ▸ List.mem_cons_self)
            cases hname
      | terminal name =>
          rw [visible_cons (by simp), derives_cons_iff rfl]
          constructor
          · rintro ⟨_, rfl, rest, hrest, rfl⟩
            exact ⟨rest.map .terminal, rfl, ih.mp hrest⟩
          · rintro ⟨γ, h, hγ⟩
            obtain ⟨_, rest, rfl, hname, rfl⟩ := List.map_eq_cons_iff.mp h
            cases hname
            exact Language.append_mem_mul (a := [name]) rfl (ih.mpr hγ)
      | nonTerminal name =>
          rw [visible_cons (by simp), ← List.singleton_append, derives_append_iff]
          constructor
          · rintro ⟨u, hu, v, hv, rfl⟩
            exact ⟨u.map .terminal, v.map .terminal, List.map_append, hu, ih.mp hv⟩
          · rintro ⟨γ₁, γ₂, h, h₁, h₂⟩
            obtain ⟨u, v, rfl, rfl, rfl⟩ := List.map_eq_append_iff.mp h
            exact Language.append_mem_mul h₁ (ih.mpr h₂)

theorem closed_language (g : Grammar) : g.Closed g.language := by
  intro name a hrule word hword
  exact (Derives.of_rule hrule).trans (mem_ofSequence_language.mp hword)

theorem ofSequence_le_of_rewrites {L : Interpretation} (hL : g.Closed L) {α β : List Symbol}
    (h : g.Rewrites α β) : L.ofSequence β ≤ L.ofSequence α := by
  cases h with
  | expand before after hrule =>
      rw [L.ofSequence_append, L.ofSequence_append, L.ofSequence_append, L.ofSequence_cons,
        L.ofSequence_visible]
      exact mul_le_mul' le_rfl (mul_le_mul' (hL _ _ hrule) le_rfl)

theorem ofSequence_le_of_derives {L : Interpretation} (hL : g.Closed L) {α β : List Symbol}
    (h : g.Derives α β) : L.ofSequence β ≤ L.ofSequence α := by
  induction h using Relation.ReflTransGen.head_induction_on with
  | refl => exact le_rfl
  | head hstep _ ih => exact ih.trans (ofSequence_le_of_rewrites hL hstep)

/-- The language of a grammar is the least closed interpretation. -/
theorem language_le_of_closed {L : Interpretation} (hL : g.Closed L) (name : String) :
    g.language name ≤ L name := by
  intro word hword
  have hle := ofSequence_le_of_derives hL hword
  rw [L.ofSequence_singleton] at hle
  exact hle (L.mem_ofSequence_word word)

/-- To bound the language of one non-terminal, only its own alternatives need to be looked at, and
in them it may be taken to have no more words than the bound. -/
theorem language_le_of_update {name : String} {l : Language String} (hl : l ≤ g.language name)
    (h : ∀ a, (.nonTerminal name, a) ∈ g.rules →
      Interpretation.ofSequence (Function.update g.language name l) a ≤ l) :
    g.language name ≤ l := by
  have hself : Function.update g.language name l name = l := Function.update_self ..
  have hother : ∀ other, other ≠ name →
      Function.update g.language name l other = g.language other :=
    fun other hne => Function.update_of_ne hne ..
  have hle : ∀ other, Function.update g.language name l other ≤ g.language other := by
    intro other
    by_cases hname : other = name
    · rw [hname, hself]
      exact hl
    · exact (hother other hname).le
  have hclosed : g.Closed (Function.update g.language name l) := by
    intro other a hrule
    by_cases hname : other = name
    · rw [hname, hself]
      exact h a (hname ▸ hrule)
    · rw [hother other hname]
      exact (Interpretation.ofSequence_mono hle a).trans (closed_language g other a hrule)
  exact (language_le_of_closed hclosed name).trans hself.le

theorem language_le_expand (g : Grammar) (name : String) :
    g.language name ≤ g.expand g.language name := by
  intro word hword
  rcases derives_nonTerminal_iff.mp (mem_language.mp hword) with h | ⟨a, hrule, h⟩
  · obtain ⟨_, _, -, hname, -⟩ := List.map_eq_cons_iff.mp h
    cases hname
  · exact mem_expand.mpr ⟨a, hrule, mem_ofSequence_language.mpr h⟩

/-- A grammar that has the same start symbol as another one, and at least its non-terminals, with
the same words for each of them. -/
structure Keeps (g r : Grammar) : Prop where
  start?_eq : r.start? = g.start?
  subset : g.nonTerminals ⊆ r.nonTerminals
  generates_iff : ∀ A ∈ g.nonTerminals, ∀ word, r.Generates A word ↔ g.Generates A word

namespace Keeps

theorem refl (g : Grammar) : g.Keeps g :=
  ⟨rfl, List.Subset.refl _, fun _ _ _ => Iff.rfl⟩

theorem trans {g r s : Grammar} (h₁ : g.Keeps r) (h₂ : r.Keeps s) : g.Keeps s where
  start?_eq := h₂.start?_eq.trans h₁.start?_eq
  subset _ hA := h₂.subset (h₁.subset hA)
  generates_iff A hA word :=
    (h₂.generates_iff A (h₁.subset hA) word).trans (h₁.generates_iff A hA word)

theorem of_language_eq {g r : Grammar} (hstart : r.start? = g.start?)
    (hsubset : g.nonTerminals ⊆ r.nonTerminals)
    (h : ∀ name, .nonTerminal name ∈ g.nonTerminals → r.language name = g.language name) :
    g.Keeps r where
  start?_eq := hstart
  subset := hsubset
  generates_iff A hA word := by
    cases A with
    | epsilon => cases (List.mem_filter.mp hA).2
    | endMarker => cases (List.mem_filter.mp hA).2
    | terminal name => cases (List.mem_filter.mp hA).2
    | nonTerminal name => rw [← mem_language, h name hA, mem_language]

end Keeps

end Grammar

end Predictive
