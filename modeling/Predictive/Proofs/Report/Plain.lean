import Predictive.Proofs.Grammar.Legible
import Predictive.Report.Plain

/-!
# A printed grammar can be read again

A production that has alternatives is printed on a line of its own: its left side, at the right of a
field, an arrow, and the alternatives with bars between them, their symbols by name with spaces
between them. Read as words, the line gives the production back (`accepted_line`, `spells_line`),
because every name is a word that is read as its symbol. A production without alternatives is
printed as an empty line, and that is passed over.

So what is read of a printed grammar is its productions that have alternatives, in their order
(`parse_plain`).
-/

namespace Predictive

open Reading

namespace Symbol

def Printable (s : Symbol) : Prop :=
  s = .epsilon ∨ s.Legible

namespace Printable

variable {s : Symbol}

theorem isWord (h : s.Printable) : Text.IsWord s.name.toList := by
  rcases h with rfl | h
  · have hname : Symbol.epsilon.name.toList = ['ε'] := by decide
    rw [hname]
    exact ⟨by simp, by simp; decide⟩
  · exact h.isWord

theorem noBar (h : s.Printable) : '|' ∉ s.name.toList := by
  rcases h with rfl | h
  · decide
  · exact h.noBar

theorem noArrow (h : s.Printable) : Text.NoArrow s.name.toList := by
  rcases h with rfl | h
  · exact Text.noArrow_of_notMem (by decide)
  · exact h.noArrow

theorem symbol_ofWord (h : s.Printable) : (Token.ofWord s.name.toList).symbol = s := by
  rcases h with rfl | h
  · decide
  · exact h.symbol_ofWord

end Printable

end Symbol

namespace Alternative

def printed (a : Alternative) : List Char :=
  [' '].intercalate (a.map fun s => s.name.toList)

theorem words_printed {a : Alternative} (h : ∀ s ∈ a, s.Printable) :
    Text.words (printed a) = a.map fun s => s.name.toList := by
  refine Text.words_intercalate fun w hw => ?_
  obtain ⟨s, hs, rfl⟩ := List.mem_map.mp hw
  exact (h s hs).isWord

theorem trimmed_printed {a : Alternative} (hne : a ≠ []) (h : ∀ s ∈ a, s.Printable) :
    Text.Trimmed (printed a) := by
  refine .intercalate (by simpa using hne) fun piece hpiece => ?_
  obtain ⟨s, hs, rfl⟩ := List.mem_map.mp hpiece
  exact (h s hs).isWord.trimmed

theorem noBar_printed {a : Alternative} (h : ∀ s ∈ a, s.Printable) : '|' ∉ printed a := by
  refine Text.notMem_intercalate (by decide) fun piece hpiece => ?_
  obtain ⟨s, hs, rfl⟩ := List.mem_map.mp hpiece
  exact (h s hs).noBar

theorem noArrow_printed {a : Alternative} (h : ∀ s ∈ a, s.Printable) :
    Text.NoArrow (printed a) := by
  refine Text.noArrow_intercalate (by simp) (by simp) fun piece hpiece => ?_
  obtain ⟨s, hs, rfl⟩ := List.mem_map.mp hpiece
  exact (h s hs).noArrow

theorem map_symbol_ofWord {a : Alternative} (h : ∀ s ∈ a, s.Printable) :
    ((a.map fun s => s.name.toList).map Token.ofWord).map Token.symbol = a := by
  rw [List.map_map, List.map_map]
  conv_rhs => rw [← List.map_id a]
  exact List.map_congr_left fun s hs => (h s hs).symbol_ofWord

end Alternative

namespace Production

structure Printable (p : Production) : Prop where
  left : p.left.IsLeftName
  symbol : ∀ a ∈ p.alternatives, ∀ s ∈ a, s.Printable
  normal : ∀ a ∈ p.alternatives, Alternative.ofSequence a = a
  noEnd : ∀ a ∈ p.alternatives, .terminal Symbol.endMarkerName ∉ a

def printedLeft (p : Production) (width : ℕ) : List Char :=
  List.replicate (width - p.left.name.length) ' ' ++ (p.left.name.toList ++ [' '])

def printedRights (p : Production) : List Char :=
  [' ', '|', ' '].intercalate (p.alternatives.map Alternative.printed)

/-! ### A printed line -/

variable {p : Production}

theorem toList_plain (hne : p.alternatives ≠ []) (width : ℕ) :
    (p.view.plain width).toList = p.printedLeft width ++ '-' :: '>' :: ' ' :: p.printedRights := by
  have hrights : p.view.rights ≠ [] := by simpa [view] using hne
  have hprinted : Alternative.printed = fun a => [' '].intercalate (a.map fun s => s.name.toList) :=
    rfl
  rw [ProductionView.plain, if_neg (by simpa using hrights)]
  simp [view, ProductionView.plainHead, Columns.padLeft, printedLeft, printedRights, hprinted,
    Alternative.names, String.toList_intercalate, Function.comp_def]

/-- A printed line is blank exactly when there are no alternatives. -/
theorem all_isBlank_line (p : Production) (width : ℕ) :
    (p.view.plain width).toList.all Text.isBlank = p.alternatives.isEmpty := by
  by_cases hne : p.alternatives = []
  · simp [ProductionView.plain, view, hne]
  · have hhyphen : Text.isBlank '-' = false := by decide
    rw [toList_plain hne]
    simp [hne, hhyphen]

namespace Printable

theorem trim_printedLeft (h : p.Printable) (width : ℕ) :
    Text.trim (p.printedLeft width) = p.left.name.toList := by
  have hspace : Text.isBlank ' ' = true := by decide
  exact Text.trim_append (by simp [hspace]) h.left.legible.isWord.trimmed (by simp [hspace])

theorem noArrow_printedLeft (h : p.Printable) (width : ℕ) : Text.NoArrow (p.printedLeft width) := by
  refine Text.noArrow_of_notMem fun hmem => ?_
  have hname : '-' ∈ p.left.name.toList := by simpa [printedLeft] using hmem
  exact absurd (h.left.isNameChar_of_mem _ hname) (by decide)

theorem trimmed_printedRights (h : p.Printable) (hne : p.alternatives ≠ []) :
    Text.Trimmed p.printedRights := by
  refine .intercalate (by simpa using hne) fun piece hpiece => ?_
  obtain ⟨a, ha, rfl⟩ := List.mem_map.mp hpiece
  exact Alternative.trimmed_printed (h.normal a ha ▸ Alternative.ofSequence_ne_nil a)
    (h.symbol a ha)

theorem noArrow_printedRights (h : p.Printable) : Text.NoArrow p.printedRights := by
  refine Text.noArrow_intercalate (by simp) (by simp) fun piece hpiece => ?_
  obtain ⟨a, ha, rfl⟩ := List.mem_map.mp hpiece
  exact Alternative.noArrow_printed (h.symbol a ha)

theorem accepted_line (h : p.Printable) (hne : p.alternatives ≠ []) (width : ℕ)
    (before : List (List Char)) :
    Accepted ((p.view.plain width).toList :: before) p.left p.printedRights := by
  have hrights : Text.trim (' ' :: p.printedRights) = p.printedRights := by
    have hspace : ∀ c ∈ [' '], Text.isBlank c = true := by
      simp
      decide
    have hnil : ∀ c ∈ ([] : List Char), Text.isBlank c = true := by simp
    have heq := Text.trim_append hspace (h.trimmed_printedRights hne) hnil
    rwa [List.append_nil] at heq
  have harrow : Text.OneArrow (p.view.plain width).toList (p.printedLeft width)
      (' ' :: p.printedRights) := by
    refine ⟨toList_plain hne width, h.noArrow_printedLeft width, ?_⟩
    have hnone := (Text.noArrow_append_cons (c := ' ') (by decide) (by decide)).mpr
      ⟨Text.noArrow_nil, h.noArrow_printedRights⟩
    rwa [List.nil_append] at hnone
  have hname : isNonTerminalName (Text.trim (p.printedLeft width)) = true := by
    rw [h.trim_printedLeft]
    exact h.left.name
  have haccepted := Accepted.rule before harrow hname
  rwa [h.trim_printedLeft, String.ofList_toList, h.left.nonTerminal_name, hrights] at haccepted

end Printable

end Production

namespace Reading

/-- The line spells the production, read as words. -/
structure Spells (rule : RuleLine) (p : Production) : Prop where
  left_eq : rule.left = p.left
  alternatives_eq : (segments rule).map (Segment.alternative .words) = p.alternatives
  accepted : ∀ s ∈ segments rule, ¬ s.Refused .words

end Reading

namespace Production.Printable

variable {p : Production}

theorem map_words_segments (h : p.Printable) (hne : p.alternatives ≠ []) (number : ℕ) :
    (segments ⟨number, p.left, p.printedRights⟩).map (fun s => Text.words s.text) =
      p.alternatives.map fun a => a.map fun s => s.name.toList := by
  have hbar : ∀ piece ∈ p.alternatives.map Alternative.printed, '|' ∉ piece := by
    intro piece hpiece
    obtain ⟨a, ha, rfl⟩ := List.mem_map.mp hpiece
    exact Alternative.noBar_printed (h.symbol a ha)
  have hsplit := Text.map_words_splitOn_intercalate (by simpa using hne) hbar
  rw [segments, List.map_map]
  refine hsplit.trans ?_
  rw [List.map_map]
  exact List.map_congr_left fun a ha => Alternative.words_printed (h.symbol a ha)

theorem spells_line (h : p.Printable) (hne : p.alternatives ≠ []) (number : ℕ) :
    Spells ⟨number, p.left, p.printedRights⟩ p := by
  have hwords := h.map_words_segments hne number
  refine ⟨rfl, ?_, fun s hs hrefused => ?_⟩
  · have halternative : Segment.alternative .words =
        (fun ws => Alternative.ofSequence ((ws.map Token.ofWord).map Token.symbol)) ∘
          fun s => Text.words s.text := rfl
    rw [halternative, ← List.map_map, hwords, List.map_map]
    conv_rhs => rw [← List.map_id p.alternatives]
    refine List.map_congr_left fun a ha => ?_
    rw [Function.comp_apply, Alternative.map_symbol_ofWord (h.symbol a ha), h.normal a ha, id]
  · -- A segment that is refused would come from an alternative with the end marker.
    have hmem := List.mem_map_of_mem (f := fun s => Text.words s.text) hs
    rw [hwords] at hmem
    obtain ⟨a, ha, heq⟩ := List.mem_map.mp hmem
    have hend := List.mem_map_of_mem (f := Token.symbol) hrefused
    rw [Token.ofText, ← heq, Alternative.map_symbol_ofWord (h.symbol a ha)] at hend
    exact h.noEnd a ha hend

theorem notMem_line (h : p.Printable) (width : ℕ) {c : Char} (hblank : Text.isBlank c = true)
    (hspace : c ≠ ' ') : c ∉ (p.view.plain width).toList := by
  have hname : ∀ {s : Symbol}, Text.IsWord s.name.toList → c ∉ s.name.toList := by
    intro s hword hmem
    have hnot := hword.not_blank c hmem
    rw [hblank] at hnot
    cases hnot
  have hbar : c ≠ '|' ∧ c ≠ '-' ∧ c ≠ '>' := by
    refine ⟨?_, ?_, ?_⟩
    all_goals
      rintro rfl
      exact absurd hblank (by decide)
  by_cases hne : p.alternatives = []
  · simp [ProductionView.plain, view, hne]
  · have hrights : c ∉ p.printedRights := by
      refine Text.notMem_intercalate (by simp [hspace, hbar.1]) fun piece hpiece => ?_
      obtain ⟨a, ha, rfl⟩ := List.mem_map.mp hpiece
      refine Text.notMem_intercalate (by simp [hspace]) fun word hword => ?_
      obtain ⟨s, hs, rfl⟩ := List.mem_map.mp hword
      exact hname (h.symbol a ha s hs).isWord
    rw [toList_plain hne]
    simp [printedLeft, hspace, hbar.2, hrights, hname h.left.legible.isWord]

end Production.Printable

/-! ### A printed grammar -/

namespace Reading

namespace Spells

variable {rule : RuleLine} {p : Production}

theorem left_of_mem_segments (h : Spells rule p) {segment : Segment}
    (hsegment : segment ∈ segments rule) : segment.left = p.left :=
  (Reading.left_of_mem_segments hsegment).trans h.left_eq

theorem alternativesOf_self (h : Spells rule p) :
    alternativesOf .words (segments rule) p.left = p.alternatives := by
  have hfilter : (segments rule).filter (fun s => s.left = p.left ∧ ¬ s.Refused .words) =
      segments rule := by
    refine List.filter_eq_self.mpr fun s hs => ?_
    simpa using ⟨h.left_of_mem_segments hs, h.accepted s hs⟩
  rw [alternativesOf, hfilter, h.alternatives_eq]

theorem alternativesOf_other (h : Spells rule p) {left : Symbol} (hleft : p.left ≠ left) :
    alternativesOf .words (segments rule) left = [] := by
  rw [alternativesOf, List.map_eq_nil_iff, List.filter_eq_nil_iff]
  intro s hs
  simp [h.left_of_mem_segments hs, hleft]

end Spells

variable {rules : List RuleLine} {productions : List Production}

theorem map_left_of_spells (h : List.Forall₂ Spells rules productions) :
    rules.map RuleLine.left = productions.map Production.left := by
  induction h with
  | nil => rfl
  | cons hrule _ ih => rw [List.map_cons, List.map_cons, hrule.left_eq, ih]

theorem alternativesOf_of_spells (h : List.Forall₂ Spells rules productions)
    (hnodup : (productions.map Production.left).Nodup) :
    ∀ p ∈ productions, alternativesOf .words (rules.flatMap segments) p.left = p.alternatives := by
  induction h with
  | nil => simp
  | @cons rule p rules productions hrule hrules ih =>
      obtain ⟨hp, hnodup⟩ := List.nodup_cons.mp hnodup
      have hlefts : rules.map RuleLine.left = productions.map Production.left :=
        map_left_of_spells hrules
      have hrest : alternativesOf .words (rules.flatMap segments) p.left = [] := by
        rw [alternativesOf, List.map_eq_nil_iff, List.filter_eq_nil_iff]
        intro s hs
        obtain ⟨other, hother, hleft⟩ := exists_rule_of_mem_segments hs
        have hne : s.left ≠ p.left := fun heq =>
          hp (hlefts ▸ hleft.trans heq ▸ List.mem_map_of_mem hother)
        simp [hne]
      rw [List.flatMap_cons, List.forall_mem_cons]
      refine ⟨?_, fun q hq => ?_⟩
      · rw [alternativesOf_append, hrule.alternativesOf_self, hrest, List.append_nil]
      · have hne : p.left ≠ q.left := fun heq => hp (heq ▸ List.mem_map_of_mem hq)
        rw [alternativesOf_append, hrule.alternativesOf_other hne, List.nil_append, ih hnodup q hq]

theorem refusals_of_spells (h : List.Forall₂ Spells rules productions) :
    refusals .words (rules.flatMap segments) = [] := by
  induction h with
  | nil => rfl
  | @cons rule p rules productions hrule _ ih =>
      have hfilter : (segments rule).filter (Segment.Refused .words) = [] :=
        List.filter_eq_nil_iff.mpr fun s hs => by simpa using hrule.accepted s hs
      rw [refusals, List.map_eq_nil_iff] at ih ⊢
      rw [List.flatMap_cons, List.filter_append, hfilter, ih, List.append_nil]

theorem exists_reads_of_lines (width : ℕ) (before : List (List Char))
    {lines : List (List Char × ℕ)}
    (hproductions : ∀ p ∈ productions, p.Printable ∧ p.alternatives ≠ [])
    (hlines : lines.map Prod.fst = productions.map fun p => (p.view.plain width).toList) :
    ∃ rules, Reads before lines rules [] ∧ List.Forall₂ Spells rules productions := by
  induction productions generalizing before lines with
  | nil =>
      obtain rfl : lines = [] := by simpa using hlines
      exact ⟨[], .nil before, .nil⟩
  | cons p productions ih =>
      obtain ⟨⟨hp, hne⟩, hrest⟩ := List.forall_mem_cons.mp hproductions
      obtain ⟨⟨line, number⟩, later, rfl, rfl, hlater⟩ := List.map_eq_cons_iff.mp hlines
      obtain ⟨rules, hreads, hspells⟩ := ih ((p.view.plain width).toList :: before) hrest hlater
      exact ⟨⟨number, p.left, p.printedRights⟩ :: rules,
        .accept (hp.accepted_line hne width before) hreads,
        .cons (hp.spells_line hne number) hspells⟩

end Reading

namespace Grammar

variable {g : Grammar}

theorem Legible.printable (h : g.Legible) (hg : g.WellFormed) {p : Production}
    (hp : p ∈ g.productions) : p.Printable := by
  have hrule : ∀ a ∈ p.alternatives, (p.left, a) ∈ g.rules := fun a ha =>
    (mem_rules_iff g _ _).mpr ⟨p, hp, rfl, ha⟩
  refine ⟨h.left p hp, fun a ha s hs => ?_, fun a ha => hg.normal _ (hrule a ha),
    fun a ha hend => ?_⟩
  · exact (hg.mem_named _ (hrule a ha) s hs).imp_right (h.symbol s)
  · have hnamed := (hg.mem_named _ (hrule a ha) _ hend).resolve_left (by simp)
    exact (hg.symbols.nameable _ hnamed).unreserved.2 rfl

/-- The lines of a printed grammar that are not blank are those of the productions that have
alternatives. -/
theorem map_fst_filled_plain (h : ∀ p ∈ g.productions, p.Printable) :
    ∃ width, (filled 1 (Text.lines g.view.plain.toList)).map Prod.fst =
      (g.productions.filter fun p => !p.alternatives.isEmpty).map fun p =>
        (p.view.plain width).toList := by
  refine ⟨(g.view.productions.map fun p => p.left.length).foldr max 0, ?_⟩
  have hpieces : ∀ {c : Char}, Text.isBlank c = true → c ≠ ' ' → ∀ width,
      ∀ line ∈ g.productions.map (fun p => (p.view.plain width).toList), c ∉ line := by
    intro c hblank hspace width line hline
    obtain ⟨p, hp, rfl⟩ := List.mem_map.mp hline
    exact (h p hp).notMem_line width hblank hspace
  have hfeed : "\n".toList = ['\n'] := rfl
  simp only [map_fst_filled, GrammarView.plain, String.toList_intercalate, hfeed, view,
    List.map_map, Function.comp_def]
  rw [Text.filter_lines_intercalate (hpieces (by decide) (by decide) _)
    (hpieces (by decide) (by decide) _), List.filter_map]
  simp only [Function.comp_def, Production.all_isBlank_line]

/-- What is read of a prepared grammar as it is printed is the grammar itself, up to productions
that have no alternatives. -/
theorem parse_plain (hg : g.Prepared) :
    ∃ r, parse .words g.view.plain = .ok r ∧
      r.productions = g.productions.filter fun p => !p.alternatives.isEmpty := by
  have hprintable : ∀ p ∈ g.productions, p.Printable := fun p hp =>
    hg.legible.printable hg.wellFormed hp
  obtain ⟨width, hlines⟩ := map_fst_filled_plain hprintable
  have hkept : ∀ p ∈ g.productions.filter (fun p => !p.alternatives.isEmpty),
      p.Printable ∧ p.alternatives ≠ [] := by
    intro p hp
    obtain ⟨hmem, hne⟩ := List.mem_filter.mp hp
    exact ⟨hprintable p hmem, by simpa using hne⟩
  have hnodup : ((g.productions.filter fun p => !p.alternatives.isEmpty).map
      Production.left).Nodup :=
    hg.wellFormed.lefts_nodup.sublist (List.filter_sublist.map Production.left)
  obtain ⟨rules, hreads, hspells⟩ := exists_reads_of_lines width [] hkept hlines
  obtain ⟨table, faults, -, hfaults, -, hload⟩ := load_eq .words hreads
  obtain rfl : faults = [] := by simpa using hfaults
  rw [refusals_of_spells hspells, List.append_nil] at hload
  refine ⟨_, by rw [parse, hload], ?_⟩
  simp only [map_left_of_spells hspells, eraseDups_eq_self_of_nodup hnodup, List.map_map]
  conv_rhs => rw [← List.map_id (g.productions.filter fun p => !p.alternatives.isEmpty)]
  refine List.map_congr_left fun p hp => ?_
  rw [Function.comp_apply, alternativesOf_of_spells hspells hnodup p hp, id]

/-- A grammar that was factored and freed of left recursion. -/
theorem parse_plain_eliminated :
    let g := (Grammar.factor (load .compact "E -> E a b | E a c | x | ε").1).eliminated
    g.Prepared ∧ ∃ r, parse .words g.view.plain = .ok r ∧
      r.productions = g.productions.filter fun p => !p.alternatives.isEmpty := by
  have hcycle :
      (Grammar.factor (load .compact "E -> E a b | E a c | x | ε").1).indirectCycle? = none := by
    cbv
  intro g
  have hg : g.Prepared := .eliminate (.factor (.load .compact _))
    (eliminate_eq_of_indirectCycle? hcycle)
  exact ⟨hg, parse_plain hg⟩

end Grammar

end Predictive
