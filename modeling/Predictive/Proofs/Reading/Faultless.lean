import Predictive.Proofs.Grammar.Legible

/-!
# Texts without fault

When nothing is reported of a text, all its lines have become rules and all their segments
alternatives. The numbers of the lines then leave no trace: the grammar can be told from the left
sides and the texts of the right sides alone (`load_of_faultless`). Its table holds no symbol that
does not stand in a production (`mem_named_of_faultless`).
-/

namespace Predictive

def RuleLine.content (rule : RuleLine) : Symbol × List Char :=
  (rule.left, rule.rights)

namespace Reading

/-- The left sides of the rules of a text, each with the text of its right sides. -/
def contents (text : String) : List (Symbol × List Char) :=
  (rulesOf (readLines none 1 (Text.lines text.toList))).map RuleLine.content

def alternativesIn (lexing : Lexing) (rights : List Char) : List Alternative :=
  (rights.splitOn '|').map fun text => .ofSequence ((Token.ofText lexing text).map Token.symbol)

variable {lexing : Lexing}

theorem alternativesOf_segments {rule : RuleLine}
    (h : ∀ s ∈ segments rule, ¬ s.Refused lexing) (left : Symbol) :
    alternativesOf lexing (segments rule) left =
      if rule.left = left then alternativesIn lexing rule.rights else [] := by
  have hleft : ∀ s ∈ segments rule, s.left = rule.left := fun _ => left_of_mem_segments
  split
  · next heq =>
      have hfilter : (segments rule).filter (fun s => s.left = left ∧ ¬ s.Refused lexing) =
          segments rule :=
        List.filter_eq_self.mpr fun s hs => by simpa [hleft s hs, heq] using h s hs
      rw [alternativesOf, hfilter, segments, List.map_map]
      rfl
  · next hne =>
      rw [alternativesOf, List.map_eq_nil_iff, List.filter_eq_nil_iff]
      intro s hs
      simp [hleft s hs, hne]

/-- The alternatives of a left side are spelled by its own rules, in their order. -/
theorem alternativesOf_flatMap_segments {rules : List RuleLine}
    (h : ∀ s ∈ rules.flatMap segments, ¬ s.Refused lexing) (left : Symbol) :
    alternativesOf lexing (rules.flatMap segments) left =
      ((rules.map RuleLine.content).filter (·.1 = left)).flatMap
        fun rule => alternativesIn lexing rule.2 := by
  induction rules with
  | nil => rfl
  | cons rule rest ih =>
      rw [List.flatMap_cons, List.forall_mem_append] at h
      rw [List.flatMap_cons, alternativesOf_append, alternativesOf_segments h.1, ih h.2,
        List.map_cons, List.filter_cons]
      by_cases hleft : rule.left = left
      · simp [RuleLine.content, hleft]
      · simp [RuleLine.content, hleft]

end Reading

namespace Grammar

open Reading

variable {lexing : Lexing} {text : String}

theorem faultsOf_eq_nil_of_faultless (h : (load lexing text).2 = []) :
    faultsOf (readLines none 1 (Text.lines text.toList)) = [] :=
  (List.append_eq_nil_iff.mp h).1

theorem load_eq_of_faultless (h : (load lexing text).2 = []) {rules : List RuleLine}
    {rejected : List ℕ} (hreads : Reads [] (filled 1 (Text.lines text.toList)) rules rejected) :
    (∀ segment ∈ rules.flatMap segments, ¬ segment.Refused lexing) ∧
      (load lexing text).1.start? = (rules.map RuleLine.left).head? ∧
      (load lexing text).1.productions = (rules.map RuleLine.left).eraseDups.map fun left =>
        ⟨left, alternativesOf lexing (rules.flatMap segments) left⟩ := by
  obtain ⟨table, faults, -, -, -, hload⟩ := load_eq lexing hreads
  rw [hload] at h ⊢
  refine ⟨fun segment hsegment hrefused => ?_, rfl, rfl⟩
  have hrefusals := (List.append_eq_nil_iff.mp h).2
  rw [refusals, List.map_eq_nil_iff, List.filter_eq_nil_iff] at hrefusals
  exact hrefusals segment hsegment (by simpa using hrefused)

/-- A text without fault is read as the alternatives of its left sides. -/
theorem load_of_faultless (h : (load lexing text).2 = []) :
    (load lexing text).1.start? = ((contents text).map Prod.fst).head? ∧
      (load lexing text).1.productions = ((contents text).map Prod.fst).eraseDups.map fun left =>
        ⟨left, ((contents text).filter (·.1 = left)).flatMap
          fun rule => alternativesIn lexing rule.2⟩ := by
  have hreads := reads_readLines remembers_nil 1 (Text.lines text.toList)
  obtain ⟨hrefused, hstart, hproductions⟩ := load_eq_of_faultless h hreads
  have hlefts : (contents text).map Prod.fst =
      (rulesOf (readLines none 1 (Text.lines text.toList))).map RuleLine.left := by
    rw [contents, List.map_map]
    rfl
  rw [hlefts, hstart, hproductions]
  refine ⟨rfl, List.map_congr_left fun left _ => ?_⟩
  rw [alternativesOf_flatMap_segments hrefused]
  rfl

theorem mem_named_of_faultless (h : (load lexing text).2 = []) {s : Symbol}
    (hs : s ∈ (load lexing text).1.symbols.named) :
    (∃ p ∈ (load lexing text).1.productions, p.left = s) ∨
      ∃ r ∈ (load lexing text).1.rules, s ∈ r.2 := by
  have hreads := reads_readLines remembers_nil 1 (Text.lines text.toList)
  obtain ⟨hrefused, -, -⟩ := load_eq_of_faultless h hreads
  rcases (mem_named_load_iff_uses hreads).mp hs with ⟨-, huses⟩ | ⟨segment, hsegment, hmem, -⟩
  · exact huses
  · exact absurd hmem (hrefused segment hsegment)

end Grammar

end Predictive
