import Predictive.Proofs.Reading.Line
import Predictive.Proofs.Reading.Segment

/-!
# What a text is read as

The text of the right sides of a rule is cut at its bars into segments. A segment is refused when
`$` is one of its tokens, and otherwise it spells an alternative of the left side of its rule.

All left sides are declared before any segment is read, so the productions are those of the distinct
left sides in their first order, and segments only extend them (`addSegments_eq`). Since the table
holds spelled symbols all the time, nothing else can be wrong with a segment.
-/

namespace Predictive

namespace Reading

theorem Accepted.isLeftName {lines : List (List Char)} {left : Symbol} {rights : List Char}
    (h : Accepted lines left rights) : left.IsLeftName := by
  induction h with
  | rule before harrow hname => exact .of_isNonTerminalName hname
  | continuation harrow hbar hbefore ih => exact ih

theorem Reads.exists_accepted {before : List (List Char)} {lines : List (List Char × ℕ)}
    {rules : List RuleLine} {rejected : List ℕ} (h : Reads before lines rules rejected)
    {rule : RuleLine} (hrule : rule ∈ rules) :
    ∃ seen, Accepted seen rule.left rule.rights := by
  induction h with
  | nil => cases hrule
  | accept hline hlines ih =>
      rcases List.mem_cons.mp hrule with rfl | hrule
      · exact ⟨_, hline⟩
      · exact ih hrule
  | reject hline hlines ih => exact ih hrule

theorem Reads.isLeftName {before : List (List Char)} {lines : List (List Char × ℕ)}
    {rules : List RuleLine} {rejected : List ℕ} (h : Reads before lines rules rejected)
    {rule : RuleLine} (hrule : rule ∈ rules) : rule.left.IsLeftName := by
  obtain ⟨seen, haccepted⟩ := h.exists_accepted hrule
  exact haccepted.isLeftName

namespace Segment

def Refused (lexing : Lexing) (segment : Segment) : Prop :=
  .terminal Symbol.endMarkerName ∈ Token.ofText lexing segment.text

instance (lexing : Lexing) (segment : Segment) : Decidable (segment.Refused lexing) :=
  inferInstanceAs (Decidable (_ ∈ _))

/-- The tokens of the segment, without `ε` beside other symbols. -/
def alternative (lexing : Lexing) (segment : Segment) : Alternative :=
  .ofSequence ((Token.ofText lexing segment.text).map Token.symbol)

/-- The symbols of a segment can all be names of a table, `ε` and the end marker excepted. -/
theorem spelled_of_mem (lexing : Lexing) (segment : Segment) :
    ∀ s ∈ (Token.ofText lexing segment.text).map Token.symbol,
      s = .epsilon ∨ s.Spelled ∧ s.name ≠ Symbol.epsilonName := by
  intro s hs
  obtain ⟨token, htoken, rfl⟩ := List.mem_map.mp hs
  rcases Token.spelled_of_mem_ofText htoken with rfl | ⟨hspelled, hword⟩
  · exact .inl rfl
  · refine .inr ⟨hspelled, fun hname => ?_⟩
    rw [hname] at hword
    cases hword

def refusal (segment : Segment) : LineError :=
  ⟨segment.line, .symbol (.reserved Symbol.endMarkerName)⟩

end Segment

def alternativesOf (lexing : Lexing) (segments : List Segment) (left : Symbol) :
    List Alternative :=
  (segments.filter fun s => s.left = left ∧ ¬ s.Refused lexing).map (Segment.alternative lexing)

def refusals (lexing : Lexing) (segments : List Segment) : List LineError :=
  (segments.filter (Segment.Refused lexing)).map Segment.refusal

theorem alternativesOf_append (lexing : Lexing) (xs ys : List Segment) (left : Symbol) :
    alternativesOf lexing (xs ++ ys) left =
      alternativesOf lexing xs left ++ alternativesOf lexing ys left := by
  simp [alternativesOf]

section Cons

variable {lexing : Lexing} {segment : Segment} (segments : List Segment)

theorem alternativesOf_cons_of_refused (h : segment.Refused lexing) (left : Symbol) :
    alternativesOf lexing (segment :: segments) left = alternativesOf lexing segments left := by
  simp [alternativesOf, h]

theorem refusals_cons_of_refused (h : segment.Refused lexing) :
    refusals lexing (segment :: segments) = segment.refusal :: refusals lexing segments := by
  simp [refusals, h]

theorem alternativesOf_cons_of_not_refused (h : ¬ segment.Refused lexing) (left : Symbol) :
    alternativesOf lexing (segment :: segments) left =
      (if left = segment.left then [segment.alternative lexing] else []) ++
        alternativesOf lexing segments left := by
  by_cases hleft : left = segment.left
  · simp [alternativesOf, h, hleft]
  · simp [alternativesOf, h, hleft, Ne.symm hleft]

theorem refusals_cons_of_not_refused (h : ¬ segment.Refused lexing) :
    refusals lexing (segment :: segments) = refusals lexing segments := by
  simp [refusals, h]

end Cons

end Reading

theorem eraseDups_eq_self_of_nodup {l : List Symbol} (h : l.Nodup) : l.eraseDups = l := by
  induction l with
  | nil => rfl
  | cons s l ih =>
      obtain ⟨hs, hl⟩ := List.nodup_cons.mp h
      have hfilter : l.filter (fun t => !t == s) = l := by
        refine List.filter_eq_self.mpr fun t ht => ?_
        simpa using fun heq : t = s => hs (heq ▸ ht)
      rw [List.eraseDups_cons, hfilter, ih hl]

theorem Production.alternatives_appendFor (p : Production) (left : Symbol)
    (alternative : Alternative) :
    (p.appendFor left alternative).alternatives =
      p.alternatives ++ if p.left = left then [alternative] else [] := by
  unfold appendFor
  split <;> simp

namespace Grammar

open Reading

variable {g : Grammar}

/-! ### Left sides -/

theorem isSome_production?_iff {left : Symbol} :
    (g.production? left).isSome = true ↔ left ∈ g.productions.map Production.left := by
  simp [production?]

/-- The grammar with a production for each of some left sides and no alternatives. -/
structure DeclaredFrom (g : Grammar) (lefts : List Symbol) : Prop where
  productions_eq : g.productions = lefts.eraseDups.map fun left => ⟨left, []⟩
  start?_eq : g.start? = lefts.head?
  spelled : g.symbols.Spelled

theorem DeclaredFrom.declareLeft {lefts : List Symbol} (h : g.DeclaredFrom lefts) {left : Symbol}
    (hleft : left.Spelled) : (g.declareLeft left).DeclaredFrom (lefts ++ [left]) := by
  have hmem : (g.production? left).isSome = true ↔ left ∈ lefts := by
    rw [isSome_production?_iff, h.productions_eq]
    simp
  have hspelled := h.spelled.insert hleft
  by_cases hdeclared : left ∈ lefts
  · have heq : g.declareLeft left = { g with symbols := g.symbols.insert left } :=
      declare_eq_self (hmem.mpr hdeclared)
    rw [heq]
    refine ⟨?_, ?_, hspelled⟩
    · simp [h.productions_eq, List.eraseDups_append, List.removeAll, hdeclared]
    · rw [List.head?_append_of_ne_nil _ (List.ne_nil_of_mem hdeclared)]
      exact h.start?_eq
  · have heq : g.declareLeft left =
        ⟨g.symbols.insert left, g.productions ++ [⟨left, []⟩], g.start? <|> some left⟩ :=
      if_neg (mt hmem.mp hdeclared)
    rw [heq]
    refine ⟨?_, ?_, hspelled⟩
    · simp [h.productions_eq, List.eraseDups_append, List.removeAll, hdeclared,
        List.eraseDups_cons]
    · simp [h.start?_eq, List.head?_append]

theorem declaredFrom_foldl {rules : List RuleLine} (h : ∀ rule ∈ rules, rule.left.Spelled) :
    DeclaredFrom (rules.foldl (fun g rule => g.declareLeft rule.left) empty)
      (rules.map RuleLine.left) := by
  induction rules using List.reverseRecOn with
  | nil => exact ⟨rfl, rfl, SymbolTable.spelled_empty⟩
  | append_singleton rules rule ih =>
      rw [List.foldl_append, List.map_append]
      have hrules := ih fun r hr => h r (List.mem_append_left _ hr)
      exact hrules.declareLeft (h rule (List.mem_append_right _ List.mem_cons_self))

theorem DeclaredFrom.left_mem_of_mem_segments {rules : List RuleLine}
    (h : g.DeclaredFrom (rules.map RuleLine.left)) {segment : Segment}
    (hsegment : segment ∈ rules.flatMap segments) :
    segment.left ∈ g.productions.map Production.left := by
  obtain ⟨rule, hrule, heq⟩ := exists_rule_of_mem_segments hsegment
  rw [h.productions_eq]
  simpa using ⟨rule, hrule, heq⟩

/-! ### Segments -/

theorem readSequence_eq (h : g.symbols.Spelled) (lexing : Lexing) (segment : Segment) :
    ∃ table : SymbolTable, table.Spelled ∧ g.readSequence lexing segment.text =
      ({ g with symbols := table },
        if segment.Refused lexing then .error (.reserved Symbol.endMarkerName)
        else .ok ((Token.ofText lexing segment.text).map Token.symbol)) := by
  have hend : .terminal Symbol.endMarkerName ∈ (Token.ofText lexing segment.text).map Token.symbol ↔
      segment.Refused lexing := by
    simp [Token.symbol_eq_terminal_iff, Segment.Refused]
  obtain ⟨htable, hrefused⟩ := h.internAll (segment.spelled_of_mem lexing)
  refine ⟨_, htable, ?_⟩
  by_cases hsegment : segment.Refused lexing
  · simp [readSequence, hrefused, hend, hsegment]
  · simp [readSequence, hrefused, hend, hsegment]

theorem add_eq {left : Symbol} (h : left ∈ g.productions.map Production.left)
    (sequence : List Symbol) :
    g.add left sequence =
      { g with productions := g.productions.map (·.appendFor left (.ofSequence sequence)) } := by
  rw [add, declare_eq_self (isSome_production?_iff.mpr h)]

theorem addSegments_cons (h : g.symbols.Spelled) (lexing : Lexing) (segment : Segment)
    (rest : List Segment) :
    ∃ table : SymbolTable, table.Spelled ∧ addSegments lexing g (segment :: rest) =
      if segment.Refused lexing then
        let r := addSegments lexing { g with symbols := table } rest
        (r.1, segment.refusal :: r.2)
      else
        addSegments lexing ({ g with symbols := table }.add segment.left
          ((Token.ofText lexing segment.text).map Token.symbol)) rest := by
  obtain ⟨table, htable, hread⟩ := readSequence_eq h lexing segment
  refine ⟨table, htable, ?_⟩
  rw [addSegments, hread]
  by_cases hrefused : segment.Refused lexing
  · simp only [if_pos hrefused]
    rfl
  · simp only [if_neg hrefused]

/-- Segments extend the productions of their left sides, in their order. -/
theorem addSegments_eq (lexing : Lexing) {segments : List Segment} (h : g.symbols.Spelled)
    (hlefts : ∀ s ∈ segments, s.left ∈ g.productions.map Production.left) :
    ∃ table : SymbolTable, table.Spelled ∧ addSegments lexing g segments =
      ({ g with
          symbols := table
          productions := g.productions.map fun p =>
            ⟨p.left, p.alternatives ++ alternativesOf lexing segments p.left⟩ },
        refusals lexing segments) := by
  induction segments generalizing g with
  | nil => exact ⟨g.symbols, h, by simp [addSegments, alternativesOf, refusals]⟩
  | cons segment rest ih =>
      obtain ⟨hleft, hrest⟩ := List.forall_mem_cons.mp hlefts
      obtain ⟨table, htable, hcons⟩ := addSegments_cons h lexing segment rest
      by_cases hrefused : segment.Refused lexing
      · obtain ⟨table', htable', heq⟩ := ih (g := { g with symbols := table }) htable hrest
        refine ⟨table', htable', ?_⟩
        rw [hcons, if_pos hrefused, heq]
        simp only [alternativesOf_cons_of_refused rest hrefused,
          refusals_cons_of_refused rest hrefused]
      · -- The left side is declared, so that the segment extends a production in its place.
        have hadd := add_eq (g := { g with symbols := table }) hleft
          ((Token.ofText lexing segment.text).map Token.symbol)
        have hlefts' : (g.productions.map (·.appendFor segment.left
            (segment.alternative lexing))).map Production.left =
              g.productions.map Production.left := by
          simp [Function.comp_def, Production.left_appendFor]
        obtain ⟨table', htable', heq⟩ := ih (g := { g with
          symbols := table
          productions := g.productions.map (·.appendFor segment.left
            (segment.alternative lexing)) }) htable (by rwa [hlefts'])
        refine ⟨table', htable', ?_⟩
        rw [hcons, if_neg hrefused, hadd]
        refine heq.trans ?_
        simp only [List.map_map, Function.comp_def, Production.left_appendFor,
          Production.alternatives_appendFor, List.append_assoc,
          alternativesOf_cons_of_not_refused rest hrefused,
          refusals_cons_of_not_refused rest hrefused]

/-! ### All of a text -/

theorem load_eq (lexing : Lexing) {text : String} {rules : List RuleLine} {rejected : List ℕ}
    (h : Reads [] (filled 1 (Text.lines text.toList)) rules rejected) :
    ∃ (table : SymbolTable) (faults : List LineError), table.Spelled ∧
      faults.map LineError.line = rejected ∧
      (∀ e ∈ faults, ∀ error, e.fault ≠ .symbol error) ∧
      load lexing text =
        (⟨table, (rules.map RuleLine.left).eraseDups.map fun left =>
            ⟨left, alternativesOf lexing (rules.flatMap segments) left⟩,
          (rules.map RuleLine.left).head?⟩,
        faults ++ refusals lexing (rules.flatMap segments)) := by
  have hspelled : ∀ rule ∈ rules, rule.left.Spelled :=
    fun rule hrule => (h.isLeftName hrule).spelled
  obtain ⟨rfl, rfl⟩ := h.unique (reads_readLines remembers_nil 1 _)
  have hdeclared := declaredFrom_foldl hspelled
  obtain ⟨table, htable, hsegments⟩ := addSegments_eq lexing hdeclared.spelled
    fun s hs => hdeclared.left_mem_of_mem_segments hs
  refine ⟨table, _, htable, rfl, fun e he => fault_ne_symbol_of_mem_readLines he, ?_⟩
  rw [load, hsegments]
  simp [hdeclared.productions_eq, hdeclared.start?_eq]

/-- A text is read in one way only, and nothing of it is lost or read twice. The lines that are not
understood are reported before the segments that are refused; the other segments are the
alternatives of their left sides. No name is ever in use for both kinds. -/
theorem load_reads (lexing : Lexing) (text : String) :
    ∃ rules rejected,
      (∀ rules' rejected', Reads [] (filled 1 (Text.lines text.toList)) rules' rejected' ↔
        rules' = rules ∧ rejected' = rejected) ∧
      (∃ faults : List LineError, faults.map LineError.line = rejected ∧
        (load lexing text).2 =
          faults ++ ((rules.flatMap segments).filter (Segment.Refused lexing)).map
            Segment.refusal) ∧
      (load lexing text).1.start? = rules.head?.map RuleLine.left ∧
      (load lexing text).1.productions =
        (rules.map RuleLine.left).eraseDups.map (fun left =>
          ⟨left, ((rules.flatMap segments).filter fun s => s.left = left ∧ ¬ s.Refused lexing).map
            (Segment.alternative lexing)⟩) ∧
      (∀ name, ¬ (.terminal name ∈ (load lexing text).1.symbols.named ∧
        .nonTerminal name ∈ (load lexing text).1.symbols.named)) ∧
      ∀ e ∈ (load lexing text).2, ∀ name, e.fault ≠ .symbol (.conflictingKind name) := by
  have hreads := reads_readLines remembers_nil 1 (Text.lines text.toList)
  obtain ⟨table, faults, htable, hlines, hfaults, hload⟩ := load_eq lexing hreads
  refine ⟨_, _, fun rules' rejected' => ⟨fun h => h.unique hreads, ?_⟩,
    ⟨faults, hlines, ?_⟩, ?_, ?_, ?_, ?_⟩
  · rintro ⟨rfl, rfl⟩
    exact hreads
  · rw [hload]
    rfl
  · rw [hload, List.head?_map]
  · rw [hload]
    rfl
  · rw [hload]
    exact htable.not_both
  · rw [hload]
    intro e he name
    rcases List.mem_append.mp he with he | he
    · exact hfaults e he _
    · obtain ⟨segment, -, rfl⟩ := List.mem_map.mp he
      simp [Segment.refusal]

/-- The second line is reported before a segment of the first. -/
example : (load .compact "A -> a | $\nx").2 =
    [⟨2, .missingArrow⟩, ⟨1, .symbol (.reserved "$")⟩] := by cbv

end Grammar

end Predictive
