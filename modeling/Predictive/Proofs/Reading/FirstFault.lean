import Mathlib.Order.Bounds.Defs
import Predictive.Proofs.Reading.Load

/-!
# The fault that a text is refused for

The lines of a text are gone through in their order, and so are the segments of its rules. So the
lines that are not understood are reported with ascending numbers, and so are the lines with refused
segments. But all of the former are reported before the first of the latter, and a text that has to
be without fault is refused for the first fault that is reported. This is the first line that is not
understood, if there is one, even when a segment of an earlier line is refused
(`parse_error_isLeast`).
-/

namespace Predictive

namespace Reading

/-! ### The order of the lines -/

theorem pairwise_filled (number : ℕ) (lines : List (List Char)) :
    ((filled number lines).map Prod.snd).Pairwise (· < ·) := by
  have hsublist : ((filled number lines).map Prod.snd).Sublist
      ((lines.zipIdx number).map Prod.snd) := List.filter_sublist.map Prod.snd
  apply List.Pairwise.sublist hsublist
  rw [List.zipIdx_map_snd]
  exact List.pairwise_lt_range'

namespace Reads

variable {before : List (List Char)} {lines : List (List Char × ℕ)} {rules : List RuleLine}
  {rejected : List ℕ}

theorem rules_sublist (h : Reads before lines rules rejected) :
    (rules.map RuleLine.line).Sublist (lines.map Prod.snd) := by
  induction h with
  | nil => exact .slnil
  | accept _ _ ih => exact ih.cons_cons _
  | reject _ _ ih => exact ih.cons _

theorem rejected_sublist (h : Reads before lines rules rejected) :
    rejected.Sublist (lines.map Prod.snd) := by
  induction h with
  | nil => exact .slnil
  | accept _ _ ih => exact ih.cons _
  | reject _ _ ih => exact ih.cons_cons _

end Reads

/-- The numbers of the lines with refused segments, one for each segment. -/
def refusedLines (lexing : Lexing) (rules : List RuleLine) : List ℕ :=
  (refusals lexing (rules.flatMap segments)).map LineError.line

theorem mem_refusedLines {lexing : Lexing} {rules : List RuleLine} {n : ℕ} :
    n ∈ refusedLines lexing rules ↔
      ∃ segment ∈ rules.flatMap segments, segment.Refused lexing ∧ segment.line = n := by
  simp only [refusedLines, refusals, List.map_map, List.mem_map, List.mem_filter,
    decide_eq_true_eq, and_assoc]
  rfl

theorem pairwise_refusedLines (lexing : Lexing) {rules : List RuleLine}
    (h : (rules.map RuleLine.line).Pairwise (· < ·)) :
    (refusedLines lexing rules).Pairwise (· ≤ ·) := by
  have hsegments : (rules.flatMap segments).Pairwise fun a b => a.line ≤ b.line := by
    rw [List.pairwise_flatMap]
    constructor
    · intro rule _
      refine List.pairwise_of_forall_mem_list fun a ha b hb => ?_
      rw [line_of_mem_segments ha, line_of_mem_segments hb]
    · rw [List.pairwise_map] at h
      refine h.imp fun {rule rule'} hlt a ha b hb => ?_
      rw [line_of_mem_segments ha, line_of_mem_segments hb]
      exact hlt.le
  rw [refusedLines, refusals, List.map_map, List.pairwise_map]
  exact hsegments.sublist List.filter_sublist

end Reading

namespace Grammar

open Reading

variable {lexing : Lexing} {text : String}

theorem lines_load_eq (lexing : Lexing) {rules : List RuleLine} {rejected : List ℕ}
    (h : Reads [] (filled 1 (Text.lines text.toList)) rules rejected) :
    (load lexing text).2.map LineError.line = rejected ++ refusedLines lexing rules := by
  obtain ⟨table, faults, -, rfl, -, hload⟩ := load_eq lexing h
  rw [hload, List.map_append]
  rfl

theorem exists_of_parse_eq_error {e : GrammarError} (h : parse lexing text = .error e) :
    ∃ first rest, (load lexing text).2 = first :: rest ∧
      e = .malformedLine first.line first.fault := by
  unfold parse at h
  split at h
  · cases h
  · next g first rest hload =>
      cases h
      exact ⟨first, rest, congrArg Prod.snd hload, rfl⟩

theorem isLeast_of_pairwise {n : ℕ} {l : List ℕ} (h : (n :: l).Pairwise (· ≤ ·)) :
    IsLeast {m | m ∈ n :: l} n := by
  refine ⟨List.mem_cons_self, List.forall_mem_cons.mpr ⟨le_refl n, ?_⟩⟩
  exact (List.pairwise_cons.mp h).1

/-- A text is refused for its first line that is not understood, or if there is none for the first
line with a refused segment. So no reported line is before it just when this is true of the refused
segments. -/
theorem parse_error_isLeast {e : GrammarError} (h : parse lexing text = .error e) :
    ∃ rules rejected line fault, Reads [] (filled 1 (Text.lines text.toList)) rules rejected ∧
      e = .malformedLine line fault ∧ ⟨line, fault⟩ ∈ (load lexing text).2 ∧
      (rejected ≠ [] → IsLeast {n | n ∈ rejected} line) ∧
      (rejected = [] → IsLeast {n | n ∈ refusedLines lexing rules} line) ∧
      ((∀ other ∈ (load lexing text).2, line ≤ other.line) ↔
        ∀ segment ∈ rules.flatMap segments, segment.Refused lexing → line ≤ segment.line) := by
  obtain ⟨rules, rejected, hreads⟩ : ∃ rules rejected,
      Reads [] (filled 1 (Text.lines text.toList)) rules rejected :=
    ⟨_, _, reads_readLines remembers_nil 1 _⟩
  obtain ⟨first, rest, herrors, rfl⟩ := exists_of_parse_eq_error h
  have hlines := lines_load_eq lexing hreads
  have hfirst : first.line :: rest.map LineError.line = rejected ++ refusedLines lexing rules := by
    rw [← hlines, herrors, List.map_cons]
  have hrejected : rejected ≠ [] → IsLeast {n | n ∈ rejected} first.line := by
    intro hne
    have hpairwise : rejected.Pairwise (· ≤ ·) :=
      ((pairwise_filled 1 _).sublist hreads.rejected_sublist).imp le_of_lt
    cases rejected with
    | nil => exact absurd rfl hne
    | cons n rejected =>
        obtain rfl : first.line = n := (List.cons.inj hfirst).1
        exact isLeast_of_pairwise hpairwise
  have hrefused : rejected = [] → IsLeast {n | n ∈ refusedLines lexing rules} first.line := by
    rintro rfl
    have hpairwise := pairwise_refusedLines lexing
      ((pairwise_filled 1 _).sublist hreads.rules_sublist)
    rw [List.nil_append] at hfirst
    rw [← hfirst] at hpairwise ⊢
    exact isLeast_of_pairwise hpairwise
  refine ⟨rules, rejected, first.line, first.fault, hreads, rfl, ?_, hrejected, hrefused, ?_⟩
  · rw [herrors]
    exact List.mem_cons_self
  · rw [← List.forall_mem_map (f := LineError.line) (P := (first.line ≤ ·)), hlines,
      List.forall_mem_append]
    constructor
    · rintro ⟨-, hrefusals⟩ segment hsegment hmem
      exact hrefusals _ (mem_refusedLines.mpr ⟨segment, hsegment, hmem, rfl⟩)
    · intro hsegments
      refine ⟨fun n hn => (hrejected (List.ne_nil_of_mem hn)).2 hn, fun n hn => ?_⟩
      obtain ⟨segment, hsegment, hmem, rfl⟩ := mem_refusedLines.mp hn
      exact hsegments segment hsegment hmem

/-- Two lines are not understood, behind one that is. -/
theorem parse_error_isLeast_arrow :
    parse .compact "A -> a\nx\ny" = .error (.malformedLine 2 .missingArrow) ∧
      ∃ rules rejected, Reads [] (filled 1 (Text.lines "A -> a\nx\ny".toList)) rules rejected ∧
        rejected = [2, 3] ∧ IsLeast {n | n ∈ rejected} 2 := by
  have hparse : parse .compact "A -> a\nx\ny" = .error (.malformedLine 2 .missingArrow) := by cbv
  have hfaults : (faultsOf (readLines none 1 (Text.lines "A -> a\nx\ny".toList))).map
      LineError.line = [2, 3] := by cbv
  obtain ⟨rules, rejected, line, fault, hreads, herror, -, hleast, -, -⟩ :=
    parse_error_isLeast hparse
  cases herror
  have hrejected : rejected = [2, 3] :=
    (hreads.unique (reads_readLines remembers_nil 1 _)).2.trans hfaults
  exact ⟨hparse, rules, rejected, hreads, hrejected, hleast (by simp [hrejected])⟩

/-- A segment of the first line is refused, and the answer is the fault of the second. -/
theorem parse_error_not_isLeast :
    parse .compact "A -> a | $\nx" = .error (.malformedLine 2 .missingArrow) ∧
      ⟨1, .symbol (.reserved "$")⟩ ∈ (load .compact "A -> a | $\nx").2 := by
  have hparse : parse .compact "A -> a | $\nx" = .error (.malformedLine 2 .missingArrow) := by cbv
  have hload : (load .compact "A -> a | $\nx").2.contains ⟨1, .symbol (.reserved "$")⟩ = true := by
    cbv
  exact ⟨hparse, List.contains_iff_mem.mp hload⟩

end Grammar

end Predictive
