import Predictive.Proofs.Factoring.Pass
import Predictive.Proofs.Language
import Predictive.Proofs.Saturation

/-!
# Left factoring keeps all languages

A pass loses no word: the words after a pass are a closed interpretation of the grammar before it,
since `head σ` stands for a part of what `head F` stands for. And it adds none: `unfactored` is a
closed interpretation of the grammar after the pass that gives every old non-terminal its old
language. A new non-terminal stands for the words of its suffixes, which have only old symbols; that
this is enough rests on the new symbols being new and each the left side of one split only.
-/

namespace Predictive

namespace Grammar

/-- The languages before a pass, and for what is new the words of the suffixes. -/
def unfactored (g : Grammar) : Interpretation := fun name =>
  if .nonTerminal name ∈ g.symbols.named then g.language name
  else g.factor.expand g.language name

theorem unfactored_of_mem {g : Grammar} {name : String}
    (h : .nonTerminal name ∈ g.symbols.named) : g.unfactored name = g.language name :=
  if_pos h

theorem unfactored_of_notMem {g : Grammar} {name : String}
    (h : .nonTerminal name ∉ g.symbols.named) :
    g.unfactored name = g.factor.expand g.language name :=
  if_neg h

theorem ofSequence_unfactored {g : Grammar} {α : List Symbol}
    (h : ∀ s ∈ α, s = .epsilon ∨ s ∈ g.symbols.named) :
    g.unfactored.ofSequence α = g.language.ofSequence α :=
  Interpretation.ofSequence_congr_of_named (fun _ => unfactored_of_mem) h

/-- A new non-terminal stands for the words of its suffixes. -/
theorem unfactored_of_isSplit {g : Grammar} (h : g.WellFormed) {left head : Symbol}
    {suffixes : List (List Symbol)} {p : Production} (hsplit : g.IsSplit left head suffixes p)
    {name : String} (hname : p.left = .nonTerminal name) :
    g.unfactored name = g.language.ofSequences suffixes := by
  rw [unfactored_of_notMem (hname ▸ h.left_notMem_of_isSplit hsplit)]
  apply le_antisymm
  · rintro word ⟨a, hrule, hword⟩
    have ha := h.factor.mem_alternatives_of_rule hsplit.mem (hname ▸ hrule)
    rw [hsplit.alternatives] at ha
    obtain ⟨suffix, hsuffix, rfl⟩ := List.mem_map.mp ha
    rw [Interpretation.ofSequence_orEpsilon] at hword
    exact ⟨suffix, hsuffix, hword⟩
  · rintro word ⟨suffix, hsuffix, hword⟩
    rw [← Interpretation.ofSequence_orEpsilon] at hword
    exact mem_expand.mpr ⟨_, hname ▸ hsplit.suffix_mem hsuffix, hword⟩

theorem head_mul_suffixes_le {g : Grammar} {name : String} {head : Symbol}
    {suffixes : List (List Symbol)} {p : Production}
    (hsplit : g.IsSplit (.nonTerminal name) head suffixes p) :
    g.language.ofSymbol head * g.language.ofSequences suffixes ≤ g.language name :=
  Interpretation.mul_ofSequences_le fun suffix hsuffix =>
    closed_language g name _ (hsplit.rule_mem suffix hsuffix)

theorem closed_unfactored {g : Grammar} (h : g.WellFormed) : g.factor.Closed g.unfactored := by
  intro name a hrule
  rcases mem_rules_factor hrule with hold | ⟨head, suffixes, p, hsplit, rfl⟩ |
    ⟨old, head, suffixes, p, hsplit, hleft, ha⟩
  · have hname := (mem_nonTerminals.mp (h.left_mem_of_rule hold)).1
    rw [unfactored_of_mem hname, ofSequence_unfactored (h.mem_named _ hold)]
    exact closed_language g name a hold
  · obtain ⟨new, hnew⟩ := hsplit.exists_left_eq
    have hhead : g.unfactored.ofSequence [head] = g.language.ofSequence [head] :=
      ofSequence_unfactored fun s hs =>
        .inr (List.mem_singleton.mp hs ▸ (h.mem_named_of_isSplit hsplit).1)
    rw [Interpretation.ofSequence_singleton, Interpretation.ofSequence_singleton] at hhead
    rw [unfactored_of_mem (h.left_mem_named_of_isSplit hsplit), hnew,
      Interpretation.ofSequence_cons, Interpretation.ofSequence_singleton, hhead,
      Interpretation.ofSymbol, unfactored_of_isSplit h hsplit hnew]
    exact head_mul_suffixes_le hsplit
  · rw [hsplit.alternatives] at ha
    obtain ⟨suffix, hsuffix, rfl⟩ := List.mem_map.mp ha
    rw [unfactored_of_isSplit h hsplit hleft, Interpretation.ofSequence_orEpsilon,
      ofSequence_unfactored ((h.mem_named_of_isSplit hsplit).2 suffix hsuffix)]
    exact Interpretation.ofSequence_le_ofSequences _ hsuffix

theorem closed_language_factor (g : Grammar) : g.Closed g.factor.language := by
  intro name a hrule
  rcases mem_rules_of_factor hrule with hkept | ⟨head, suffixes, p, hsplit, suffix, hsuffix, rfl⟩
  · exact closed_language g.factor name a hkept
  · obtain ⟨new, hpnew⟩ := hsplit.exists_left_eq
    have hsuffixes : g.factor.language.ofSequence suffix ≤ g.factor.language new := by
      rw [← Interpretation.ofSequence_orEpsilon]
      exact closed_language g.factor new _ (hpnew ▸ hsplit.suffix_mem hsuffix)
    have hhead := closed_language g.factor name _ hsplit.head_mem
    rw [hpnew, Interpretation.ofSequence_cons, Interpretation.ofSequence_singleton] at hhead
    exact (mul_le_mul' le_rfl hsuffixes).trans hhead

theorem language_factor {g : Grammar} (h : g.WellFormed) {name : String}
    (hname : .nonTerminal name ∈ g.symbols.named) : g.factor.language name = g.language name := by
  apply le_antisymm
  · rw [← unfactored_of_mem hname]
    exact language_le_of_closed (closed_unfactored h) name
  · exact language_le_of_closed (closed_language_factor g) name

theorem WellFormed.keeps_factor {g : Grammar} (h : g.WellFormed) : g.Keeps g.factor :=
  .of_language_eq (start?_factor g) (nonTerminals_subset_factor g) fun _ hname =>
    language_factor h (mem_nonTerminals.mp hname).1

theorem WellFormed.iterate_factor {g : Grammar} (h : g.WellFormed) (n : ℕ) :
    (Grammar.factor^[n] g).WellFormed := by
  induction n generalizing g with
  | zero => exact h
  | succ n ih => exact ih h.factor

theorem WellFormed.keeps_iterate_factor {g : Grammar} (h : g.WellFormed) (n : ℕ) :
    g.Keeps (Grammar.factor^[n] g) := by
  induction n generalizing g with
  | zero => exact .refl g
  | succ n ih => exact h.keeps_factor.trans (ih h.factor)

/-- Factoring until nothing is split is some number of passes. -/
theorem exists_factorFully_eq (g : Grammar) : ∃ n, g.factorFully.value = Grammar.factor^[n] g :=
  exists_untilStable_eq ..

/-- A pass that changed nothing can be repeated as often as one likes. -/
theorem factorUpTo_eq_iterate (limit : ℕ) (g : Grammar) :
    g.factorUpTo limit = Grammar.factor^[limit] g := by
  induction limit generalizing g with
  | zero => rfl
  | succ limit ih =>
      rw [factorUpTo]
      split
      · next hfixed => exact (Function.iterate_fixed hfixed (limit + 1)).symm
      · exact ih g.factor

theorem exists_factorUpTo_eq (limit : ℕ) (g : Grammar) :
    ∃ n, g.factorUpTo limit = Grammar.factor^[n] g :=
  ⟨limit, factorUpTo_eq_iterate limit g⟩

/-- However often a grammar has been factored since it was read, one further pass as well as
factoring it fully can be carried out, and keeps its start symbol and all its languages. -/
theorem keeps_factor_and_factorFully (lexing : Lexing) (text : String) (n : ℕ) :
    let g := Grammar.factor^[n] (load lexing text).1
    (g.SuffixesEnter ∧ g.Keeps g.factor) ∧
      (∃ k, g.factorFully.value = Grammar.factor^[k] g ∧
        ∀ i < k, (Grammar.factor^[i] g).SuffixesEnter) ∧
      g.Keeps g.factorFully.value := by
  intro g
  have hg : g.WellFormed := (wellFormed_load lexing text).iterate_factor n
  obtain ⟨k, hk⟩ := g.exists_factorFully_eq
  refine ⟨⟨hg.suffixesEnter, hg.keeps_factor⟩, ⟨k, hk, fun i _ => ?_⟩, ?_⟩
  · exact (hg.iterate_factor i).suffixesEnter
  · rw [hk]
    exact hg.keeps_iterate_factor k

end Grammar

end Predictive
