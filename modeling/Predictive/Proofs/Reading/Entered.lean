import Predictive.Proofs.Derivation
import Predictive.Proofs.Grammar.WellFormed
import Predictive.Proofs.Reading.Load

/-!
# What a text leaves in the symbol table

Left sides enter the table when they are declared, and the symbols of a segment one after another
when it is read. A refused segment becomes no alternative, but only its `$` stops the reading: the
symbols in front of it have entered, and nothing takes them out again (`Segment.entered`). So the
symbols of a grammar that was read are those that stand in its productions, and besides them just
those that stand in front of `$` in a refused segment (`mem_named_load_iff_uses`).

No right side is read before all left sides are declared, so the left sides are the first symbols of
the table, in the order of their productions (`prefix_lefts_load`).
-/

namespace Predictive

theorem Symbol.IsLeftName.nameable {s : Symbol} (h : s.IsLeftName) : s.Nameable := by
  have hupper := h.startsUpper
  refine ⟨.inr ((Symbol.isNonTerminal_iff s).mpr h.kind_eq), fun heq => ?_, fun heq => ?_⟩
  · rw [heq] at hupper
    exact absurd hupper (by decide)
  · rw [heq] at hupper
    exact absurd hupper (by decide)

namespace SymbolTable

theorem mem_named_insert_iff {table : SymbolTable} {s t : Symbol} (hs : s.Nameable) :
    t ∈ (table.insert s).named ↔ t ∈ table.named ∨ t = s := by
  constructor
  · exact mem_of_mem_insert
  · rintro (ht | rfl)
    · exact (table.prefix_insert s).subset ht
    · exact mem_insert_self hs

/-- Symbols enter up to the first end marker. -/
theorem Spelled.mem_named_internAll_iff {table : SymbolTable} (h : table.Spelled)
    {sequence : List Symbol}
    (hsequence : ∀ s ∈ sequence, s = .epsilon ∨ s.Spelled ∧ s.name ≠ Symbol.epsilonName)
    {t : Symbol} :
    t ∈ (table.internAll sequence).1.named ↔ t ∈ table.named ∨
      t ∈ visible (sequence.takeWhile (· != .terminal Symbol.endMarkerName)) := by
  induction sequence generalizing table with
  | nil => simp [SymbolTable.internAll, visible_nil]
  | cons s rest ih =>
      obtain ⟨hs, hrest⟩ := List.forall_mem_cons.mp hsequence
      rcases hs with rfl | ⟨hs, hne⟩
      · rw [List.takeWhile_cons_of_pos (by simp), visible_epsilon]
        exact ih h hrest
      · rw [SymbolTable.internAll, h.intern hs hne]
        by_cases hend : s = .terminal Symbol.endMarkerName
        · rw [if_pos hend, List.takeWhile_cons_of_neg (by simpa using hend)]
          simp [visible_nil]
        · have hnameable : s.Nameable :=
            ⟨hs.isTerminal_or, hne, mt hs.name_eq_endMarkerName_iff.mp hend⟩
          rw [if_neg hend, List.takeWhile_cons_of_pos (by simpa using hend),
            visible_cons hnameable.ne_epsilon, List.mem_cons, ← or_assoc,
            ← mem_named_insert_iff hnameable]
          exact ih (h.insert hs) hrest

end SymbolTable

namespace Reading

namespace Segment

/-- The symbols that reading the segment enters into the table: those in front of `$`. -/
def entered (lexing : Lexing) (segment : Segment) : List Symbol :=
  visible (((Token.ofText lexing segment.text).map Token.symbol).takeWhile
    (· != .terminal Symbol.endMarkerName))

variable {lexing : Lexing} {segment : Segment}

theorem entered_of_not_refused (h : ¬ segment.Refused lexing) :
    segment.entered lexing = visible (segment.alternative lexing) := by
  rw [entered, alternative, visible_ofSequence, List.takeWhile_eq_self_iff.mpr]
  intro s hs
  obtain ⟨token, htoken, rfl⟩ := List.mem_map.mp hs
  simp only [bne_iff_ne, ne_eq, Token.symbol_eq_terminal_iff]
  rintro rfl
  exact h htoken

theorem exists_token_of_mem_entered {s : Symbol} (h : s ∈ segment.entered lexing) :
    ∃ token ∈ Token.ofText lexing segment.text, s = token.symbol := by
  obtain ⟨token, htoken, heq⟩ :=
    List.mem_map.mp ((List.takeWhile_prefix _).subset (mem_visible.mp h).1)
  exact ⟨token, htoken, heq.symm⟩

end Segment

end Reading

namespace Grammar

open Reading

variable {g : Grammar} {lexing : Lexing}

theorem mem_named_declareLeft_iff {left : Symbol} (hleft : left.Nameable) {s : Symbol} :
    s ∈ (g.declareLeft left).symbols.named ↔ s ∈ g.symbols.named ∨ s = left := by
  rw [declareLeft, symbols_declare]
  exact SymbolTable.mem_named_insert_iff hleft

theorem mem_named_foldl_declareLeft_iff {rules : List RuleLine}
    (hrules : ∀ rule ∈ rules, rule.left.Nameable) {s : Symbol} :
    s ∈ (rules.foldl (fun g rule => g.declareLeft rule.left) g).symbols.named ↔
      s ∈ g.symbols.named ∨ ∃ rule ∈ rules, rule.left = s := by
  induction rules generalizing g with
  | nil => simp
  | cons rule rest ih =>
      obtain ⟨hrule, hrest⟩ := List.forall_mem_cons.mp hrules
      rw [List.foldl_cons, ih hrest, mem_named_declareLeft_iff hrule, or_assoc,
        List.exists_mem_cons_iff, eq_comm]

theorem mem_named_addSegments_iff {segments : List Segment} (h : g.symbols.Spelled) {s : Symbol} :
    s ∈ (addSegments lexing g segments).1.symbols.named ↔
      s ∈ g.symbols.named ∨ ∃ segment ∈ segments, s ∈ segment.entered lexing := by
  induction segments generalizing g with
  | nil => simp [addSegments]
  | cons segment rest ih =>
      have hread : s ∈ (g.readSequence lexing segment.text).1.symbols.named ↔
          s ∈ g.symbols.named ∨ s ∈ segment.entered lexing :=
        h.mem_named_internAll_iff (segment.spelled_of_mem lexing)
      have hspelled : (g.readSequence lexing segment.text).1.symbols.Spelled :=
        (h.internAll (segment.spelled_of_mem lexing)).1
      have hrest : s ∈ (addSegments lexing g (segment :: rest)).1.symbols.named ↔
          s ∈ (g.readSequence lexing segment.text).1.symbols.named ∨
            ∃ segment ∈ rest, s ∈ segment.entered lexing := by
        rw [addSegments]
        split
        · next g' sequence heq =>
            rw [heq] at hspelled ⊢
            rw [ih ((symbols_add g' _ _).symm ▸ hspelled), symbols_add]
        · next g' error heq =>
            rw [heq] at hspelled ⊢
            exact ih hspelled
      rw [hrest, hread, or_assoc, List.exists_mem_cons_iff]

/-! ### The first symbols of a table -/

theorem named_declareLeft {left : Symbol} (hleft : left.Nameable)
    (h : g.symbols.named = g.productions.map Production.left) :
    (g.declareLeft left).symbols.named = (g.declareLeft left).productions.map Production.left := by
  have hmem : left ∈ g.symbols.symbols ↔ (g.production? left).isSome = true := by
    rw [isSome_production?_iff, ← h, SymbolTable.mem_symbols_of_nameable hleft]
  by_cases hdeclared : (g.production? left).isSome = true
  · have heq : g.declareLeft left = g := by
      rw [declareLeft, SymbolTable.insert, if_pos (hmem.mpr hdeclared)]
      exact declare_eq_self hdeclared
    rwa [heq]
  · have heq : g.declareLeft left =
        ⟨g.symbols.push left, g.productions ++ [⟨left, []⟩], g.start? <|> some left⟩ := by
      rw [declareLeft, SymbolTable.insert, if_neg (mt hmem.mp hdeclared)]
      exact if_neg hdeclared
    rw [heq, SymbolTable.push, h, List.map_append]
    rfl

theorem named_foldl_declareLeft {rules : List RuleLine} (h : ∀ rule ∈ rules, rule.left.Nameable)
    (hg : g.symbols.named = g.productions.map Production.left) :
    (rules.foldl (fun g rule => g.declareLeft rule.left) g).symbols.named =
      (rules.foldl (fun g rule => g.declareLeft rule.left) g).productions.map Production.left := by
  induction rules generalizing g with
  | nil => exact hg
  | cons rule rest ih =>
      obtain ⟨hrule, hrest⟩ := List.forall_mem_cons.mp h
      exact ih hrest (named_declareLeft hrule hg)

theorem prefix_addSegments (lexing : Lexing) (g : Grammar) (segments : List Segment) :
    g.symbols.named <+: (addSegments lexing g segments).1.symbols.named := by
  induction segments generalizing g with
  | nil => exact List.prefix_rfl
  | cons segment rest ih =>
      have hread : g.symbols.named <+: (g.readSequence lexing segment.text).1.symbols.named :=
        SymbolTable.prefix_internAll g.symbols _
      rw [addSegments]
      split
      · next g' sequence heq =>
          rw [heq] at hread
          have hrest := ih (g'.add segment.left sequence)
          rw [symbols_add] at hrest
          exact hread.trans hrest
      · next g' error heq =>
          rw [heq] at hread
          exact hread.trans (ih g')

theorem DeclaredFrom.prefix_lefts_addSegments {rules : List RuleLine}
    (h : g.DeclaredFrom (rules.map RuleLine.left))
    (hnamed : g.symbols.named = g.productions.map Production.left) (lexing : Lexing) :
    (addSegments lexing g (rules.flatMap segments)).1.productions.map Production.left <+:
      (addSegments lexing g (rules.flatMap segments)).1.symbols.named := by
  obtain ⟨table, -, hadded⟩ := addSegments_eq lexing h.spelled fun s hs =>
    h.left_mem_of_mem_segments hs
  have hlefts : (addSegments lexing g (rules.flatMap segments)).1.productions.map
      Production.left = g.productions.map Production.left := by
    rw [hadded, List.map_map]
    rfl
  rw [hlefts, ← hnamed]
  exact prefix_addSegments lexing g _

/-- The left sides of a text come first in the table. -/
theorem prefix_lefts_load (lexing : Lexing) (text : String) :
    (load lexing text).1.productions.map Production.left <+:
      (load lexing text).1.symbols.named := by
  have hreads := reads_readLines remembers_nil 1 (Text.lines text.toList)
  have hempty : empty.symbols.named = empty.productions.map Production.left := rfl
  have hdeclared := declaredFrom_foldl fun rule hrule => (hreads.isLeftName hrule).spelled
  have hnamed := named_foldl_declareLeft
    (fun rule hrule => (hreads.isLeftName hrule).nameable) hempty
  exact hdeclared.prefix_lefts_addSegments hnamed lexing

/-! ### All of a text -/

def Uses (g : Grammar) (s : Symbol) : Prop :=
  (∃ p ∈ g.productions, p.left = s) ∨ ∃ r ∈ g.rules, s ∈ r.2

instance (g : Grammar) (s : Symbol) : Decidable (g.Uses s) :=
  inferInstanceAs (Decidable (_ ∨ _))

variable {text : String} {rules : List RuleLine} {rejected : List ℕ}
  (hreads : Reads [] (filled 1 (Text.lines text.toList)) rules rejected)
include hreads

theorem mem_named_load_iff {s : Symbol} :
    s ∈ (load lexing text).1.symbols.named ↔
      (∃ rule ∈ rules, rule.left = s) ∨
        ∃ segment ∈ rules.flatMap segments, s ∈ segment.entered lexing := by
  have hlefts : ∀ rule ∈ rules, rule.left.IsLeftName :=
    fun rule hrule => hreads.isLeftName hrule
  obtain ⟨rfl, rfl⟩ := hreads.unique (reads_readLines remembers_nil 1 _)
  have hdeclared := declaredFrom_foldl fun rule hrule => (hlefts rule hrule).spelled
  rw [load, mem_named_addSegments_iff hdeclared.spelled,
    mem_named_foldl_declareLeft_iff fun rule hrule => (hlefts rule hrule).nameable]
  simp [empty, SymbolTable.empty]

theorem exists_production_load_iff {left : Symbol} :
    (∃ p ∈ (load lexing text).1.productions, p.left = left) ↔
      ∃ rule ∈ rules, rule.left = left := by
  obtain ⟨table, faults, -, -, -, hload⟩ := load_eq lexing hreads
  rw [hload]
  simp

/-- The rules of a text are spelled by the segments that are not refused. -/
theorem mem_rules_load_iff {left : Symbol} {a : Alternative} :
    (left, a) ∈ (load lexing text).1.rules ↔ ∃ segment ∈ rules.flatMap segments,
      segment.left = left ∧ ¬ segment.Refused lexing ∧ segment.alternative lexing = a := by
  obtain ⟨table, faults, -, -, -, hload⟩ := load_eq lexing hreads
  rw [mem_rules_iff, hload]
  constructor
  · rintro ⟨p, hp, rfl, ha⟩
    obtain ⟨left, -, rfl⟩ := List.mem_map.mp hp
    obtain ⟨segment, hsegment, rfl⟩ := List.mem_map.mp ha
    obtain ⟨hmem, hspells⟩ := List.mem_filter.mp hsegment
    simp only [decide_eq_true_eq] at hspells
    exact ⟨segment, hmem, hspells.1, hspells.2, rfl⟩
  · rintro ⟨segment, hsegment, rfl, hspells, rfl⟩
    obtain ⟨rule, hrule, heq⟩ := exists_rule_of_mem_segments hsegment
    have hleft : segment.left ∈ (rules.map RuleLine.left).eraseDups :=
      List.mem_eraseDups.mpr (heq ▸ List.mem_map_of_mem hrule)
    refine ⟨_, List.mem_map_of_mem hleft, rfl, ?_⟩
    exact List.mem_map_of_mem (List.mem_filter.mpr ⟨hsegment, by simpa using hspells⟩)

theorem uses_load_iff {s : Symbol} (hs : s ≠ .epsilon) :
    (load lexing text).1.Uses s ↔ (∃ rule ∈ rules, rule.left = s) ∨
      ∃ segment ∈ rules.flatMap segments,
        ¬ segment.Refused lexing ∧ s ∈ segment.entered lexing := by
  rw [Uses, exists_production_load_iff hreads]
  refine or_congr_right ?_
  constructor
  · rintro ⟨⟨left, a⟩, hrule, hmem⟩
    obtain ⟨segment, hsegment, rfl, hspells, rfl⟩ := (mem_rules_load_iff hreads).mp hrule
    refine ⟨segment, hsegment, hspells, ?_⟩
    rw [Segment.entered_of_not_refused hspells]
    exact mem_visible.mpr ⟨hmem, hs⟩
  · rintro ⟨segment, hsegment, hspells, hmem⟩
    rw [Segment.entered_of_not_refused hspells] at hmem
    exact ⟨_, (mem_rules_load_iff hreads).mpr ⟨segment, hsegment, rfl, hspells, rfl⟩,
      (mem_visible.mp hmem).1⟩

/-- A symbol of a grammar that was read stands in a production, or in front of `$` in a segment that
was refused. -/
theorem mem_named_load_iff_uses {s : Symbol} :
    s ∈ (load lexing text).1.symbols.named ↔
      s ≠ .epsilon ∧ (load lexing text).1.Uses s ∨
        ∃ segment ∈ rules.flatMap segments,
          segment.Refused lexing ∧ s ∈ segment.entered lexing := by
  have hnamed : s ∈ (load lexing text).1.symbols.named ↔ _ := mem_named_load_iff hreads
  constructor
  · intro hs
    have hne : s ≠ .epsilon := ((wellFormed_load lexing text).symbols.nameable s hs).ne_epsilon
    rcases hnamed.mp hs with hleft | ⟨segment, hsegment, hentered⟩
    · exact .inl ⟨hne, (uses_load_iff hreads hne).mpr (.inl hleft)⟩
    · by_cases hrefused : segment.Refused lexing
      · exact .inr ⟨segment, hsegment, hrefused, hentered⟩
      · exact .inl ⟨hne, (uses_load_iff hreads hne).mpr
          (.inr ⟨segment, hsegment, hrefused, hentered⟩)⟩
  · rintro (⟨hne, huses⟩ | ⟨segment, hsegment, -, hentered⟩)
    · refine hnamed.mpr (((uses_load_iff hreads hne).mp huses).imp_right ?_)
      rintro ⟨segment, hsegment, -, hentered⟩
      exact ⟨segment, hsegment, hentered⟩
    · exact hnamed.mpr (.inr ⟨segment, hsegment, hentered⟩)

end Grammar

end Predictive
