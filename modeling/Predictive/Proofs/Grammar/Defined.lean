import Predictive.Proofs.Factoring.Language
import Predictive.Proofs.LeftRecursion.Language

/-!
# Grammars in which every non-terminal has a production

The symbols of the alternatives are looked at in one order: that of the productions, of their
alternatives and of the symbols in them. A validation names the first non-terminal in this order
that has no production, and accepts a grammar that has a start symbol and no such non-terminal.

Such a grammar is complete. Factoring and an elimination keep it complete: what is new on a right
side is the left side of a new production, and no left side gets lost.
-/

namespace Predictive

namespace Grammar

def rightSymbols (g : Grammar) : List Symbol :=
  g.productions.flatMap fun p => p.alternatives.flatten

def Undefined (g : Grammar) (s : Symbol) : Prop :=
  s.isNonTerminal = true ∧ ∀ p ∈ g.productions, p.left ≠ s

/-- The first non-terminal on a right side that has no production. -/
def FirstUndefined (g : Grammar) (s : Symbol) : Prop :=
  ∃ before after, g.rightSymbols = before ++ s :: after ∧ g.Undefined s ∧
    ∀ t ∈ before, ¬ g.Undefined t

def Complete (g : Grammar) : Prop :=
  ∀ s ∈ g.rightSymbols, ¬ g.Undefined s

variable {g : Grammar}

theorem rules_flatMap_snd (g : Grammar) : (g.rules.flatMap fun r => r.2) = g.rightSymbols := by
  simp only [rules, rightSymbols, List.flatMap_assoc, List.flatMap_map]
  exact congrArg (List.flatMap · g.productions) (funext fun p => List.flatMap_id)

theorem undefined_iff {s : Symbol} :
    g.Undefined s ↔ (s.isNonTerminal && (g.production? s).isNone) = true := by
  simp [Undefined, production?, List.find?_eq_none]

theorem undefined?_eq_some_iff {s : Symbol} : g.undefined? = some s ↔ g.FirstUndefined s := by
  rw [undefined?, rules_flatMap_snd, List.find?_eq_some_iff_append]
  simp only [FirstUndefined, undefined_iff, Bool.not_eq_true', Bool.not_eq_true]
  constructor
  · rintro ⟨hs, before, after, heq, hbefore⟩
    exact ⟨before, after, heq, hs, hbefore⟩
  · rintro ⟨before, after, heq, hs, hbefore⟩
    exact ⟨hs, before, after, heq, hbefore⟩

theorem undefined?_eq_none_iff : g.undefined? = none ↔ g.Complete := by
  rw [undefined?, rules_flatMap_snd, List.find?_eq_none]
  simp only [Complete, undefined_iff]

theorem not_complete_iff : ¬ g.Complete ↔ ∃ s, g.FirstUndefined s := by
  rw [← undefined?_eq_none_iff, ← ne_eq, Option.ne_none_iff_exists']
  exact exists_congr fun _ => undefined?_eq_some_iff

theorem validate_of_start?_eq_none (h : g.start? = none) : g.validate = .error .empty := by
  rw [validate, h]
  rfl

theorem validate_of_firstUndefined (hstart : g.start? ≠ none) {s : Symbol}
    (hs : g.FirstUndefined s) : g.validate = .error (.undefinedNonTerminal s) := by
  rw [validate, undefined?_eq_some_iff.mpr hs, if_neg (by simpa using hstart)]

theorem validate_of_complete (hstart : g.start? ≠ none) (h : g.Complete) :
    g.validate = .ok () := by
  rw [validate, undefined?_eq_none_iff.mpr h, if_neg (by simpa using hstart)]

theorem validate_eq_ok_iff : g.validate = .ok () ↔ g.start? ≠ none ∧ g.Complete := by
  constructor
  · intro h
    have hstart : g.start? ≠ none := by
      intro hnone
      rw [validate_of_start?_eq_none hnone] at h
      cases h
    refine ⟨hstart, ?_⟩
    by_contra hcomplete
    obtain ⟨s, hs⟩ := not_complete_iff.mp hcomplete
    rw [validate_of_firstUndefined hstart hs] at h
    cases h
  · exact fun ⟨hstart, hcomplete⟩ => validate_of_complete hstart hcomplete

/-! ### Changes of a grammar -/

theorem mem_rightSymbols {s : Symbol} : s ∈ g.rightSymbols ↔ ∃ r ∈ g.rules, s ∈ r.2 := by
  rw [← rules_flatMap_snd, List.mem_flatMap]

/-- A change keeps a grammar complete when it takes away no left side and puts on the right sides no
non-terminal but left sides. -/
theorem Complete.of_rightSymbols {r : Grammar} (h : g.Complete)
    (hlefts : ∀ p ∈ g.productions, ∃ q ∈ r.productions, q.left = p.left)
    (hright : ∀ s ∈ r.rightSymbols, s = .epsilon ∨ s ∈ g.rightSymbols ∨
      ∃ q ∈ r.productions, q.left = s) : r.Complete := by
  rintro s hs ⟨hkind, hnone⟩
  rcases hright s hs with rfl | hold | ⟨q, hq, heq⟩
  · cases hkind
  · refine h s hold ⟨hkind, fun p hp heq => ?_⟩
    obtain ⟨q, hq, hleft⟩ := hlefts p hp
    exact hnone q hq (hleft.trans heq)
  · exact hnone q hq heq

theorem Complete.factor (h : g.Complete) : g.factor.Complete := by
  refine h.of_rightSymbols (fun q hq => ?_) fun s hs => ?_
  · obtain ⟨f, hf⟩ := exists_factorsInto g.symbols hq
    exact ⟨_, hf.left_mem, rfl⟩
  · obtain ⟨⟨left, a⟩, hrule, hmem⟩ := mem_rightSymbols.mp hs
    rcases mem_rules_factor hrule with hold | ⟨head, suffixes, p, hsplit, rfl⟩ |
      ⟨old, head, suffixes, p, hsplit, rfl, ha⟩
    · exact .inr (.inl (mem_rightSymbols.mpr ⟨_, hold, hmem⟩))
    · rcases List.mem_cons.mp hmem with rfl | hmem
      · obtain ⟨suffix, hsuffix⟩ := List.exists_mem_of_ne_nil _ hsplit.suffixes_ne_nil
        exact .inr (.inl (mem_rightSymbols.mpr
          ⟨_, hsplit.rule_mem suffix hsuffix, List.mem_cons_self⟩))
      · exact .inr (.inr ⟨p, hsplit.mem, (List.mem_singleton.mp hmem).symm⟩)
    · rw [hsplit.alternatives] at ha
      obtain ⟨suffix, hsuffix, rfl⟩ := List.mem_map.mp ha
      refine (Alternative.mem_of_mem_orEpsilon hmem).imp_right fun hmem => .inl ?_
      exact mem_rightSymbols.mpr
        ⟨_, hsplit.rule_mem suffix hsuffix, List.mem_cons_of_mem _ hmem⟩

theorem validate_factor (hv : g.validate = .ok ()) : g.factor.validate = .ok () := by
  obtain ⟨hstart, hcomplete⟩ := validate_eq_ok_iff.mp hv
  exact validate_of_complete hstart hcomplete.factor

theorem Complete.iterate_factor (h : g.Complete) (n : ℕ) : (Grammar.factor^[n] g).Complete := by
  induction n generalizing g with
  | zero => exact h
  | succ n ih => exact ih h.factor

theorem Complete.eliminated (h : g.Complete) (hg : g.WellFormed) : g.eliminated.Complete := by
  refine h.of_rightSymbols (fun p hp => ?_) fun s hs => ?_
  · rcases mem_or_removes g.symbols _ (hg.mem_productionsInOrder.mpr hp) with
      ⟨hkept, -⟩ | ⟨tail, hremoves⟩
    · exact ⟨p, hkept, rfl⟩
    · exact ⟨_, hremoves.withTail_mem, rfl⟩
  · obtain ⟨⟨left, a⟩, hrule, hmem⟩ := mem_rightSymbols.mp hs
    have hbody : ∀ {p : Production} {α : List Symbol} {tail : Symbol},
        g.elimination.Removes p tail → (∃ r ∈ g.rules, α ⊆ r.2) →
        s ∈ Alternative.ofSequence (α ++ [tail]) → s = .epsilon ∨ s ∈ g.rightSymbols ∨
          ∃ q ∈ g.eliminated.productions, q.left = s := by
      rintro p α tail hremoves ⟨r, hr, hα⟩ hmem
      refine (Alternative.mem_of_mem_ofSequence hmem).imp_right fun hmem => ?_
      rcases List.mem_append.mp hmem with hmem | hmem
      · exact .inl (mem_rightSymbols.mpr ⟨r, hr, hα hmem⟩)
      · exact .inr ⟨_, hremoves.tailProduction_mem, (List.mem_singleton.mp hmem).symm⟩
    rcases hg.mem_rules_eliminated hrule with ⟨hold, -⟩ | ⟨p, hp, tail, hremoves,
      ⟨-, b, hb, rfl⟩ | ⟨-, α, hα, rfl⟩ | ⟨-, rfl⟩⟩
    · exact .inr (.inl (mem_rightSymbols.mpr ⟨_, hold, hmem⟩))
    · refine hbody hremoves ⟨(p.left, b), ?_, List.Subset.refl b⟩ hmem
      exact (mem_rules_iff g _ _).mpr ⟨p, hp, rfl, Production.mem_of_mem_others hb⟩
    · refine hbody hremoves ⟨(p.left, p.left :: α), ?_, List.subset_cons_self _ _⟩ hmem
      exact (mem_rules_iff g _ _).mpr ⟨p, hp, rfl, Production.mem_recursive.mp hα⟩
    · exact .inl (List.mem_singleton.mp hmem)

theorem validate_eliminated (hg : g.WellFormed) (hv : g.validate = .ok ()) :
    g.eliminated.validate = .ok () := by
  obtain ⟨hstart, hcomplete⟩ := validate_eq_ok_iff.mp hv
  exact validate_of_complete hstart (hcomplete.eliminated hg)

end Grammar

end Predictive
