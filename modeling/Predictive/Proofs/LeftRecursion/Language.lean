import Mathlib
import Predictive.Proofs.Factoring.Language
import Predictive.Proofs.LeftRecursion.Rules

/-!
# Elimination of left recursion keeps all languages

Let the recursive alternatives of `A` be `A α` and the others `β`, and read the languages as a
Kleene algebra. The tail of `A` derives the words of `R∗`, where `R` are the words of the `α`.

No word is added: `withTails`, which gives `R∗` to the tail and their old languages to all others,
is closed under the new rules, since the words of `A` followed by words of `R` are words of `A`.
No word is lost: the new languages are closed under the old rules. For an alternative `A α` this
needs that the words of the tail, followed by words of `R`, are words of the tail; that is why the
tail derives no more than `R∗` (`language_tail`).

Nothing here asks for the absence of indirect recursion. All productions are changed at once, but a
closed interpretation is one for all of them together, so each can be looked at by itself.
-/

namespace Predictive

open Computability

namespace Grammar

theorem ofSequence_withTail (L : Interpretation) (α : List Symbol) (name : String) :
    L.ofSequence (Alternative.ofSequence (α ++ [.nonTerminal name])) = L.ofSequence α * L name := by
  rw [Interpretation.ofSequence_ofSequence, Interpretation.ofSequence_append,
    Interpretation.ofSequence_singleton]
  rfl

section NoWordAdded

/-- The old languages, and for a tail any number of words that its production may append. -/
def withTails (g : Grammar) : Interpretation := fun name =>
  if .nonTerminal name ∈ g.symbols.named then g.language name
  else ⨆ p : { p // p ∈ g.productions ∧ g.elimination.Removes p (.nonTerminal name) },
    (g.language.ofSequences p.1.recursive)∗

theorem withTails_of_mem {g : Grammar} {name : String}
    (h : .nonTerminal name ∈ g.symbols.named) : g.withTails name = g.language name :=
  if_pos h

theorem ofSequence_withTails {g : Grammar} {α : List Symbol}
    (h : ∀ s ∈ α, s = .epsilon ∨ s ∈ g.symbols.named) :
    g.withTails.ofSequence α = g.language.ofSequence α :=
  Interpretation.ofSequence_congr_of_named (fun _ => withTails_of_mem) h

theorem withTails_of_removes {g : Grammar} (h : g.WellFormed) {p : Production}
    (hp : p ∈ g.productions) {name : String}
    (hremoves : g.elimination.Removes p (.nonTerminal name)) :
    g.withTails name = (g.language.ofSequences p.recursive)∗ := by
  rw [withTails, if_neg (h.mem_named_of_removes hp hremoves).1]
  apply le_antisymm
  · refine iSup_le fun q => ?_
    rw [h.eq_of_removes q.2.1 hp q.2.2 hremoves]
  · exact le_iSup_of_le ⟨p, hp, hremoves⟩ le_rfl

theorem language_mul_recursive_le {g : Grammar} {p : Production} (hp : p ∈ g.productions)
    {name : String} (hleft : p.left = .nonTerminal name) :
    g.language name * g.language.ofSequences p.recursive ≤ g.language name := by
  refine Interpretation.mul_ofSequences_le fun α hα => ?_
  have hrule : (.nonTerminal name, .nonTerminal name :: α) ∈ g.rules :=
    (mem_rules_iff _ _ _).mpr ⟨p, hp, hleft, hleft ▸ Production.mem_recursive.mp hα⟩
  exact closed_language g name _ hrule

theorem closed_withTails {g : Grammar} (h : g.WellFormed) : g.eliminated.Closed g.withTails := by
  intro name a hrule
  rcases h.mem_rules_eliminated hrule with ⟨hold, -⟩ | ⟨p, hp, tail, hremoves, hcases⟩
  · have hname := (mem_nonTerminals.mp (h.left_mem_of_rule hold)).1
    rw [withTails_of_mem hname, ofSequence_withTails (h.mem_named _ hold)]
    exact closed_language g name a hold
  · obtain ⟨-, hothers, hrecursive⟩ := h.mem_named_of_removes hp hremoves
    obtain ⟨tailName, rfl⟩ := exists_eq_of_mem_tails _ _ hremoves.tail_mem
    have htail := withTails_of_removes h hp hremoves
    rcases hcases with ⟨hleft, b, hb, rfl⟩ | ⟨hleft, α, hα, rfl⟩ | ⟨hleft, rfl⟩
    · have hname := (mem_nonTerminals.mp (h.left_mem p hp)).1
      rw [← hleft] at hname
      rw [withTails_of_mem hname, ofSequence_withTail, htail, ofSequence_withTails (hothers b hb)]
      have hrule' : (.nonTerminal name, b) ∈ g.rules :=
        (mem_rules_iff _ _ _).mpr ⟨p, hp, hleft.symm, Production.mem_of_mem_others hb⟩
      exact mul_kstar_le (closed_language g name b hrule')
        (language_mul_recursive_le hp hleft.symm)
    · cases hleft
      rw [ofSequence_withTail, htail, ofSequence_withTails (hrecursive α hα)]
      exact (mul_le_mul' (Interpretation.ofSequence_le_ofSequences _ hα) le_rfl).trans
        mul_kstar_le_kstar
    · cases hleft
      rw [htail, Interpretation.ofSequence_singleton]
      exact one_le_kstar

end NoWordAdded

section NoWordLost

variable {g : Grammar} {p : Production} {tailName : String}

/-- The rules that an elimination makes of a production, read as inclusions. -/
theorem tail_rules (hremoves : g.elimination.Removes p (.nonTerminal tailName)) :
    1 ≤ g.eliminated.language tailName ∧
      (∀ α ∈ p.recursive, g.eliminated.language.ofSequence α * g.eliminated.language tailName ≤
        g.eliminated.language tailName) ∧
      ∀ name, p.left = .nonTerminal name → ∀ b ∈ p.others,
        g.eliminated.language.ofSequence b * g.eliminated.language tailName ≤
          g.eliminated.language name := by
  have hclosed := closed_language g.eliminated
  refine ⟨?_, fun α hα => ?_, fun name hleft b hb => ?_⟩
  · refine le_trans ?_ (hclosed tailName [.epsilon] ((mem_rules_iff _ _ _).mpr
      ⟨_, hremoves.tailProduction_mem, rfl, Production.mem_tailProduction.mpr (.inr rfl)⟩))
    rw [Interpretation.ofSequence_singleton]
    exact le_rfl
  · rw [← ofSequence_withTail]
    exact hclosed tailName _ ((mem_rules_iff _ _ _).mpr ⟨_, hremoves.tailProduction_mem, rfl,
      Production.mem_tailProduction.mpr (.inl ⟨α, hα, rfl⟩)⟩)
  · rw [← ofSequence_withTail]
    exact hclosed name _ ((mem_rules_iff _ _ _).mpr ⟨_, hremoves.withTail_mem, hleft,
      Production.mem_withTail.mpr ⟨b, hb, rfl⟩⟩)

theorem kstar_recursive_le (hremoves : g.elimination.Removes p (.nonTerminal tailName)) :
    (g.eliminated.language.ofSequences p.recursive)∗ ≤ g.eliminated.language tailName := by
  obtain ⟨hone, hstep, -⟩ := tail_rules hremoves
  exact kstar_le_of_mul_le_right hone (Interpretation.ofSequences_mul_le hstep)

/-- A tail derives any number of words that its production may append, and nothing else. -/
theorem language_tail (h : g.WellFormed) (hp : p ∈ g.productions)
    (hremoves : g.elimination.Removes p (.nonTerminal tailName)) :
    g.eliminated.language tailName = (g.eliminated.language.ofSequences p.recursive)∗ := by
  apply le_antisymm _ (kstar_recursive_le hremoves)
  obtain ⟨hnew, -, hrecursive⟩ := h.mem_named_of_removes hp hremoves
  refine language_le_of_update (kstar_recursive_le hremoves) fun a hrule => ?_
  have ha := h.eliminated.mem_alternatives_of_rule hremoves.tailProduction_mem hrule
  rcases Production.mem_tailProduction.mp ha with ⟨α, hα, rfl⟩ | rfl
  · -- The tail is new, so it does not occur in `α`.
    have hold : Interpretation.ofSequence (Function.update g.eliminated.language tailName
        (g.eliminated.language.ofSequences p.recursive)∗) α =
        g.eliminated.language.ofSequence α := by
      refine Interpretation.ofSequence_congr fun name hin => Function.update_of_ne ?_ ..
      rintro rfl
      exact hnew ((hrecursive α hα _ hin).resolve_left (by simp))
    rw [ofSequence_withTail, hold, Function.update_self]
    exact (mul_le_mul' (Interpretation.ofSequence_le_ofSequences _ hα) le_rfl).trans
      mul_kstar_le_kstar
  · rw [Interpretation.ofSequence_singleton]
    exact one_le_kstar

theorem language_eliminated_le (h : g.WellFormed)
    (hremoves : g.elimination.Removes p (.nonTerminal tailName)) {name : String}
    (hleft : p.left = .nonTerminal name) :
    g.eliminated.language name ≤
      g.eliminated.language.ofSequences p.others * g.eliminated.language tailName := by
  intro word hword
  obtain ⟨a, hrule, hword⟩ := language_le_expand _ name hword
  have hmem := h.eliminated.mem_alternatives_of_rule hremoves.withTail_mem (hleft ▸ hrule)
  obtain ⟨b, hb, rfl⟩ := Production.mem_withTail.mp hmem
  rw [ofSequence_withTail] at hword
  exact mul_le_mul' (Interpretation.ofSequence_le_ofSequences _ hb) le_rfl hword

/-- After an elimination a left side still takes in what its production may append. -/
theorem language_eliminated_mul_recursive_le (h : g.WellFormed) (hp : p ∈ g.productions)
    (hremoves : g.elimination.Removes p (.nonTerminal tailName)) {name : String}
    (hleft : p.left = .nonTerminal name) :
    g.eliminated.language name * g.eliminated.language.ofSequences p.recursive ≤
      g.eliminated.language name := by
  have htail : g.eliminated.language tailName * g.eliminated.language.ofSequences p.recursive ≤
      g.eliminated.language tailName := by
    rw [language_tail h hp hremoves]
    exact kstar_mul_le_kstar
  obtain ⟨-, -, hothers⟩ := tail_rules hremoves
  calc g.eliminated.language name * g.eliminated.language.ofSequences p.recursive
      ≤ g.eliminated.language.ofSequences p.others * g.eliminated.language tailName *
          g.eliminated.language.ofSequences p.recursive :=
        mul_le_mul' (language_eliminated_le h hremoves hleft) le_rfl
    _ = g.eliminated.language.ofSequences p.others *
          (g.eliminated.language tailName * g.eliminated.language.ofSequences p.recursive) :=
        mul_assoc ..
    _ ≤ g.eliminated.language.ofSequences p.others * g.eliminated.language tailName :=
        mul_le_mul' le_rfl htail
    _ ≤ g.eliminated.language name := Interpretation.ofSequences_mul_le (hothers name hleft)

theorem closed_language_eliminated (h : g.WellFormed) : g.Closed g.eliminated.language := by
  intro name a hrule
  rcases h.mem_rules_of_eliminated hrule with ⟨hkept, -⟩ | ⟨p, hp, hleft, ha, tail, hremoves⟩
  · exact closed_language _ name a hkept
  · obtain ⟨tailName, rfl⟩ := exists_eq_of_mem_tails _ _ hremoves.tail_mem
    obtain ⟨hone, -, hothers⟩ := tail_rules hremoves
    rcases Production.mem_others_or_recursive ha with hb | ⟨α, hα, rfl⟩
    · calc g.eliminated.language.ofSequence a
          = g.eliminated.language.ofSequence a * 1 := (mul_one _).symm
        _ ≤ g.eliminated.language.ofSequence a * g.eliminated.language tailName :=
            mul_le_mul' le_rfl hone
        _ ≤ g.eliminated.language name := hothers name hleft a hb
    · rw [hleft, Interpretation.ofSequence_cons]
      exact (mul_le_mul' le_rfl (Interpretation.ofSequence_le_ofSequences _ hα)).trans
        (language_eliminated_mul_recursive_le h hp hremoves hleft)

end NoWordLost

theorem language_eliminated {g : Grammar} (h : g.WellFormed) {name : String}
    (hname : .nonTerminal name ∈ g.symbols.named) :
    g.eliminated.language name = g.language name := by
  apply le_antisymm
  · rw [← withTails_of_mem hname]
    exact language_le_of_closed (closed_withTails h) name
  · exact language_le_of_closed (closed_language_eliminated h) name

theorem WellFormed.keeps_eliminated {g : Grammar} (h : g.WellFormed) : g.Keeps g.eliminated :=
  .of_language_eq rfl (nonTerminals_subset_eliminated g) fun _ hname =>
    language_eliminated h (mem_nonTerminals.mp hname).1

/-- An elimination keeps the start symbol and all languages, however often the grammar has been
factored since it was read. -/
theorem keeps_eliminate_iterate_factor (lexing : Lexing) (text : String) (n : ℕ) {r : Grammar}
    {removals : List Removal}
    (h : (Grammar.factor^[n] (load lexing text).1).eliminate = .ok (r, removals)) :
    Keeps (Grammar.factor^[n] (load lexing text).1) r := by
  rw [eq_eliminated_of_eliminate h]
  exact ((wellFormed_load lexing text).iterate_factor n).keeps_eliminated

/-- Recursive alternatives, one of them bare, that a pass has factored before. -/
theorem keeps_eliminate_iterate_factor_bare :
    (Grammar.factor^[1] (load .compact "E -> E a | E b | E | c | ε").1).indirectCycle? = none ∧
      Keeps (Grammar.factor^[1] (load .compact "E -> E a | E b | E | c | ε").1)
        (Grammar.factor^[1] (load .compact "E -> E a | E b | E | c | ε").1).eliminated := by
  have hcycle :
      (Grammar.factor^[1] (load .compact "E -> E a | E b | E | c | ε").1).indirectCycle? =
        none := by
    cbv
  have h := eliminate_eq_of_indirectCycle? hcycle
  exact ⟨hcycle, keeps_eliminate_iterate_factor .compact _ 1 h⟩

end Grammar

end Predictive
