import Predictive.Proofs.Reading.Faultless
import Predictive.Proofs.Text.Blank
import Predictive.Proofs.Token.Spaced

/-!
# What the lines of a text state

A statement is a left side with the tokens of one alternative. `LineStates` says what a line states
that is understood: a blank line nothing, a line with an arrow the pieces of its right sides, and a
line that begins with a bar the same for the left side that was left off with. Blanks around the
parts of a line do not occur in it, because neither a left side nor a token depends on them.

Where a line has an arrow or a bar can be read off what it states (`lineStates_arrow_iff`,
`lineStates_bar_iff`), and blanks at its ends add nothing (`lineStates_blank_append_iff`,
`lineStates_append_blank_iff`). The statements of a text are those of its lines, in their order, and
texts with the same statements are read as the same grammar (`parse_eq_ok_of_textStates`).
-/

namespace Predictive

namespace Token

open Text

theorem ofText_blank_append (lexing : Lexing) {gap : List Char} (h : Blank gap) (cs : List Char) :
    ofText lexing (gap ++ cs) = ofText lexing cs := by
  induction gap with
  | nil => rfl
  | cons c gap ih =>
      obtain ⟨hc, hgap⟩ := List.forall_mem_cons.mp h
      have hcons := ofText_append_blank lexing hc [] (gap ++ cs)
      rwa [List.nil_append, ofText_nil, List.nil_append, ih hgap] at hcons

theorem ofText_append_blanks (lexing : Lexing) {gap : List Char} (h : Blank gap) (cs : List Char) :
    ofText lexing (cs ++ gap) = ofText lexing cs := by
  cases gap with
  | nil => rw [List.append_nil]
  | cons c gap =>
      obtain ⟨hc, hgap⟩ := List.forall_mem_cons.mp h
      have hnil := ofText_blank_append lexing hgap []
      rw [List.append_nil] at hnil
      rw [ofText_append_blank lexing hc, hnil, ofText_nil, List.append_nil]

end Token

namespace Reading

open Text

abbrev Statement := Symbol × List Token

/-- What the text of right sides states for a left side: one alternative for each piece. -/
def statementsOf (lexing : Lexing) (left : Symbol) (rights : List Char) : List Statement :=
  (rights.splitOn '|').map fun text => (left, Token.ofText lexing text)

def leftNamed (cs : List Char) : Symbol :=
  .nonTerminal (String.ofList (trim cs))

/-- What a line states that is understood, with the left side that the lines before leave off with
and the one that it leaves off with itself. -/
inductive LineStates (lexing : Lexing) :
    Option Symbol → List Char → List Statement → Option Symbol → Prop
  | blank {line : List Char} (previous : Option Symbol) (hblank : Blank line) :
      LineStates lexing previous line [] previous
  | rule {left rights : List Char} (previous : Option Symbol)
      (hname : isNonTerminalName (trim left) = true) (harrow : NoArrow rights) :
      LineStates lexing previous (left ++ '-' :: '>' :: rights)
        (statementsOf lexing (leftNamed left) rights) (some (leftNamed left))
  | continuation {gap rights : List Char} {left : Symbol} (hgap : Blank gap)
      (harrow : NoArrow rights) :
      LineStates lexing (some left) (gap ++ '|' :: rights) (statementsOf lexing left rights)
        (some left)

inductive LinesState (lexing : Lexing) :
    Option Symbol → List (List Char) → List Statement → Option Symbol → Prop
  | nil (previous : Option Symbol) : LinesState lexing previous [] [] previous
  | cons {previous next last : Option Symbol} {line : List Char} {lines : List (List Char)}
      {statements rest : List Statement} (hline : LineStates lexing previous line statements next)
      (hlines : LinesState lexing next lines rest last) :
      LinesState lexing previous (line :: lines) (statements ++ rest) last

def TextStates (lexing : Lexing) (previous : Option Symbol) (text : List Char)
    (statements : List Statement) (last : Option Symbol) : Prop :=
  LinesState lexing previous (text.splitOn '\n') statements last

variable {lexing : Lexing} {previous next last : Option Symbol} {left : Symbol}
  {statements : List Statement}

/-! ### Right sides -/

theorem statementsOf_bar (lexing : Lexing) (left : Symbol) (xs ys : List Char) :
    statementsOf lexing left (xs ++ '|' :: ys) =
      statementsOf lexing left xs ++ statementsOf lexing left ys := by
  rw [statementsOf, List.splitOn_append_cons_self, List.map_append, statementsOf, statementsOf]

theorem statementsOf_of_notMem {cs : List Char} (h : '|' ∉ cs) :
    statementsOf lexing left cs = [(left, Token.ofText lexing cs)] := by
  rw [statementsOf, List.splitOn_eq_singleton h, List.map_singleton]

theorem statementsOf_blank_append {gap : List Char} (h : Blank gap) (cs : List Char) :
    statementsOf lexing left (gap ++ cs) = statementsOf lexing left cs := by
  have hfirst : ∀ xs : List Char, '|' ∉ xs →
      statementsOf lexing left (gap ++ xs) = statementsOf lexing left xs := by
    intro xs hxs
    have hgap : '|' ∉ gap ++ xs := by simpa [hxs] using h.notMem isBlank_bar
    rw [statementsOf_of_notMem hgap, statementsOf_of_notMem hxs, Token.ofText_blank_append lexing h]
  by_cases hbar : '|' ∈ cs
  · obtain ⟨xs, ys, rfl, hxs⟩ := List.eq_append_cons_of_mem hbar
    rw [← List.append_assoc, statementsOf_bar, hfirst xs hxs, statementsOf_bar]
  · exact hfirst cs hbar

theorem statementsOf_append_blank {gap : List Char} (h : Blank gap) (cs : List Char) :
    statementsOf lexing left (cs ++ gap) = statementsOf lexing left cs := by
  have hlast : ∀ xs : List Char, '|' ∉ xs →
      statementsOf lexing left (xs ++ gap) = statementsOf lexing left xs := by
    intro xs hxs
    have hgap : '|' ∉ xs ++ gap := by simpa [hxs] using h.notMem isBlank_bar
    rw [statementsOf_of_notMem hgap, statementsOf_of_notMem hxs,
      Token.ofText_append_blanks lexing h]
  by_cases hbar : '|' ∈ cs
  · -- Only the piece behind the last bar is next to the blanks.
    obtain ⟨ys, xs, hcs, hys⟩ := List.eq_append_cons_of_mem (List.mem_reverse.mpr hbar)
    obtain rfl : cs = xs.reverse ++ '|' :: ys.reverse := by
      rw [← List.reverse_reverse cs, hcs]
      simp
    rw [List.append_assoc, List.cons_append, statementsOf_bar, hlast _ (by simpa using hys),
      statementsOf_bar]
  · exact hlast cs hbar

theorem statementsOf_trim (cs : List Char) :
    statementsOf lexing left (trim cs) = statementsOf lexing left cs := by
  obtain ⟨before, after, hcs, hbefore, hafter⟩ := exists_eq_trim cs
  conv_rhs => rw [hcs, statementsOf_blank_append hbefore, statementsOf_append_blank hafter]

/-! ### One line -/

theorem isNameChar_of_mem_of_isNonTerminalName {left : List Char}
    (hname : isNonTerminalName (trim left) = true) {c : Char} (hc : isBlank c = false)
    (hmem : c ∈ left) : isNameChar c = true :=
  isNameChar_of_isNonTerminalName hname c (mem_trim hc hmem)

theorem noArrow_of_isNonTerminalName {left : List Char}
    (hname : isNonTerminalName (trim left) = true) : NoArrow left := by
  refine noArrow_of_notMem fun hmem => ?_
  exact absurd (isNameChar_of_mem_of_isNonTerminalName hname (by decide) hmem) (by decide)

theorem notMem_bar_of_isNonTerminalName {left : List Char}
    (hname : isNonTerminalName (trim left) = true) : '|' ∉ left := by
  intro hmem
  exact absurd (isNameChar_of_mem_of_isNonTerminalName hname isBlank_bar hmem) (by decide)

theorem lineStates_iff_readLine {line : List Char} :
    LineStates lexing previous line statements next ↔
      (Blank line ∧ statements = [] ∧ next = previous) ∨
        ∃ left rights, readLine previous line = .ok (left, rights) ∧
          statements = statementsOf lexing left rights ∧ next = some left := by
  constructor
  · intro h
    cases h with
    | blank _ hblank => exact .inl ⟨hblank, rfl, rfl⟩
    | @rule left rights _ hname harrow =>
        have hone : OneArrow (left ++ '-' :: '>' :: rights) left rights :=
          ⟨rfl, noArrow_of_isNonTerminalName hname, harrow⟩
        exact .inr ⟨_, _, readLine_eq_ok_iff.mpr (.inl ⟨left, rights, hone, hname, rfl, rfl⟩),
          (statementsOf_trim rights).symm, rfl⟩
    | @continuation gap rights left hgap harrow =>
        obtain ⟨rest, after, htrim, rfl, hafter⟩ := exists_trim_eq_cons hgap isBlank_bar rights
        have hno : NoArrow (gap ++ '|' :: (rest ++ after)) := by
          rw [noArrow_blank_append_iff hgap]
          exact (noArrow_cons_of_ne (by decide)).mpr harrow
        refine .inr ⟨left, trim rest, readLine_eq_ok_iff.mpr (.inr ⟨hno, rest, htrim, rfl, rfl⟩),
          ?_, rfl⟩
        rw [statementsOf_append_blank hafter, statementsOf_trim]
  · rintro (⟨hblank, rfl, rfl⟩ | ⟨left, rights, hread, rfl, rfl⟩)
    · exact .blank _ hblank
    · rcases readLine_eq_ok_iff.mp hread with ⟨l, r, ⟨rfl, -, harrow⟩, hname, rfl, rfl⟩ |
        ⟨harrow, rest, hbar, rfl, rfl⟩
      · rw [statementsOf_trim]
        exact .rule _ hname harrow
      · obtain ⟨before, after, hline, hbefore, hafter⟩ := exists_eq_trim line
        rw [hbar, List.cons_append] at hline
        have hrest : NoArrow (rest ++ after) :=
          harrow.of_isInfix ⟨before ++ ['|'], [], by rw [hline]; simp⟩
        rw [hline, statementsOf_trim, ← statementsOf_append_blank hafter]
        exact .continuation hbefore hrest

/-- A line with an arrow is understood when a name stands in front of it. -/
theorem lineStates_arrow_iff {l r : List Char} :
    LineStates lexing previous (l ++ '-' :: '>' :: r) statements next ↔
      isNonTerminalName (trim l) = true ∧ NoArrow r ∧
        statements = statementsOf lexing (leftNamed l) r ∧ next = some (leftNamed l) := by
  constructor
  · intro h
    generalize hline : l ++ '-' :: '>' :: r = line at h
    cases h with
    | blank _ hblank =>
        have hmem : '-' ∈ line := hline ▸ by simp
        exact absurd hmem (hblank.notMem (by decide))
    | @rule l' r' _ hname harrow =>
        have hone : OneArrow (l' ++ '-' :: '>' :: r') l' r' :=
          ⟨rfl, noArrow_of_isNonTerminalName hname, harrow⟩
        obtain ⟨rfl, rfl⟩ := hone.unique hline.symm
        exact ⟨hname, harrow, rfl, rfl⟩
    | @continuation gap rights left hgap harrow =>
        have hno : NoArrow (gap ++ '|' :: rights) := by
          rw [noArrow_blank_append_iff hgap]
          exact (noArrow_cons_of_ne (by decide)).mpr harrow
        exact absurd ⟨l, r, by rw [← hline]; simp⟩ hno
  · rintro ⟨hname, harrow, rfl, rfl⟩
    exact .rule previous hname harrow

/-- A line with a bar is understood when the part in front of the bar is, and then it states what
that part does and what stands behind the bar. -/
theorem lineStates_bar_iff {xs ys : List Char} :
    LineStates lexing previous (xs ++ '|' :: ys) statements next ↔
      ∃ left before, NoArrow ys ∧ LineStates lexing previous xs before (some left) ∧
        statements = before ++ statementsOf lexing left ys ∧ next = some left := by
  constructor
  · intro h
    generalize hline : xs ++ '|' :: ys = line at h
    cases h with
    | blank _ hblank =>
        have hmem : '|' ∈ line := hline ▸ by simp
        exact absurd hmem (hblank.notMem isBlank_bar)
    | @rule l r _ hname harrow =>
        -- The bar is not in the name, so it stands behind the arrow.
        have hbar : '|' ∉ l ++ ['-', '>'] := by
          simpa using notMem_bar_of_isNonTerminalName hname
        have heq : (l ++ ['-', '>']) ++ r = xs ++ '|' :: ys := by simpa using hline.symm
        obtain ⟨more, rfl, rfl⟩ := exists_behind_of_notMem hbar heq
        obtain ⟨hmore, hys⟩ := (noArrow_append_cons (by decide) (by decide)).mp harrow
        rw [statementsOf_bar, List.append_assoc]
        exact ⟨_, _, hys, .rule previous hname hmore, rfl, rfl⟩
    | @continuation gap r left hgap harrow =>
        obtain ⟨more, rfl, hr⟩ := exists_behind_of_notMem (hgap.notMem isBlank_bar) hline.symm
        cases more with
        | nil =>
            obtain rfl := (List.cons.inj hr).2
            rw [List.append_nil]
            exact ⟨left, [], harrow, .blank _ hgap, rfl, rfl⟩
        | cons d more =>
            rw [List.cons_append] at hr
            obtain ⟨rfl, rfl⟩ := List.cons.inj hr
            obtain ⟨hmore, hys⟩ := (noArrow_append_cons (by decide) (by decide)).mp harrow
            rw [statementsOf_bar]
            exact ⟨left, _, hys, .continuation hgap hmore, rfl, rfl⟩
  · rintro ⟨left, before, hys, hxs, rfl, rfl⟩
    generalize hleft : some left = next at hxs
    cases hxs with
    | blank _ hblank =>
        subst hleft
        exact .continuation hblank hys
    | rule _ hname harrow =>
        obtain rfl := Option.some.inj hleft
        rw [← statementsOf_bar, List.append_assoc]
        refine .rule _ hname ((noArrow_append_cons (by decide) (by decide)).mpr ⟨harrow, hys⟩)
    | continuation hgap harrow =>
        obtain rfl := Option.some.inj hleft
        rw [← statementsOf_bar, List.append_assoc]
        exact .continuation hgap ((noArrow_append_cons (by decide) (by decide)).mpr ⟨harrow, hys⟩)

theorem lineStates_blank_iff {line : List Char} (h : Blank line) :
    LineStates lexing previous line statements next ↔ statements = [] ∧ next = previous := by
  constructor
  · intro hstates
    cases hstates with
    | blank => exact ⟨rfl, rfl⟩
    | rule => exact absurd (by simp) (h.notMem (by decide : isBlank '-' = false))
    | continuation => exact absurd (by simp) (h.notMem isBlank_bar)
  · rintro ⟨rfl, rfl⟩
    exact .blank _ h

theorem leftNamed_blank_append {gap : List Char} (h : Blank gap) (l : List Char) :
    leftNamed (gap ++ l) = leftNamed l := by
  rw [leftNamed, trim_blank_append h, leftNamed]

theorem leftNamed_append_blank {gap : List Char} (h : Blank gap) (l : List Char) :
    leftNamed (l ++ gap) = leftNamed l := by
  rw [leftNamed, trim_append_blank h, leftNamed]

theorem lineStates_blank_append_iff {gap : List Char} (h : Blank gap) {line : List Char} :
    LineStates lexing previous (gap ++ line) statements next ↔
      LineStates lexing previous line statements next := by
  constructor
  · intro hstates
    generalize heq : gap ++ line = whole at hstates
    cases hstates with
    | blank _ hblank => exact .blank _ (blank_append_iff.mp (heq ▸ hblank)).2
    | @rule l r _ hname harrow =>
        obtain ⟨more, rfl, rfl⟩ := exists_behind_of_notMem (h.notMem (by decide)) heq
        rw [trim_blank_append h] at hname
        rw [leftNamed_blank_append h]
        exact .rule previous hname harrow
    | continuation hgap harrow =>
        obtain ⟨more, rfl, rfl⟩ := exists_behind_of_notMem (h.notMem isBlank_bar) heq
        exact .continuation (blank_append_iff.mp hgap).2 harrow
  · intro hstates
    cases hstates with
    | blank _ hblank => exact .blank _ (h.append hblank)
    | @rule l r _ hname harrow =>
        rw [← List.append_assoc, ← leftNamed_blank_append h]
        exact .rule previous (by rwa [trim_blank_append h]) harrow
    | continuation hgap harrow =>
        rw [← List.append_assoc]
        exact .continuation (h.append hgap) harrow

theorem lineStates_append_blank_iff {gap : List Char} (h : Blank gap) {line : List Char} :
    LineStates lexing previous (line ++ gap) statements next ↔
      LineStates lexing previous line statements next := by
  constructor
  · intro hstates
    generalize heq : line ++ gap = whole at hstates
    cases hstates with
    | blank _ hblank => exact .blank _ (blank_append_iff.mp (heq ▸ hblank)).1
    | @rule l r _ hname harrow =>
        rw [List.append_cons l] at heq
        obtain ⟨more, rfl, rfl⟩ := exists_before_of_notMem (h.notMem (by decide)) heq
        rw [statementsOf_append_blank h, ← List.append_cons l]
        exact .rule previous hname ((noArrow_append_blank_iff h).mp harrow)
    | continuation hgap harrow =>
        obtain ⟨more, rfl, rfl⟩ := exists_before_of_notMem (h.notMem isBlank_bar) heq
        rw [statementsOf_append_blank h]
        exact .continuation hgap ((noArrow_append_blank_iff h).mp harrow)
  · intro hstates
    cases hstates with
    | blank _ hblank => exact .blank _ (hblank.append h)
    | @rule l r _ hname harrow =>
        rw [List.append_assoc, ← statementsOf_append_blank h]
        exact .rule previous hname ((noArrow_append_blank_iff h).mpr harrow)
    | continuation hgap harrow =>
        rw [List.append_assoc, ← statementsOf_append_blank h]
        exact .continuation hgap ((noArrow_append_blank_iff h).mpr harrow)

/-! ### All lines -/

theorem linesState_cons_iff {line : List Char} {lines : List (List Char)} :
    LinesState lexing previous (line :: lines) statements last ↔
      ∃ next before after, LineStates lexing previous line before next ∧
        LinesState lexing next lines after last ∧ statements = before ++ after := by
  constructor
  · intro h
    cases h with
    | cons hline hlines => exact ⟨_, _, _, hline, hlines, rfl⟩
  · rintro ⟨next, before, after, hline, hlines, rfl⟩
    exact .cons hline hlines

theorem linesState_singleton_iff {line : List Char} :
    LinesState lexing previous [line] statements last ↔
      LineStates lexing previous line statements last := by
  rw [linesState_cons_iff]
  constructor
  · rintro ⟨next, before, after, hline, hnil, rfl⟩
    cases hnil
    rwa [List.append_nil]
  · exact fun hline => ⟨last, statements, [], hline, .nil last, (List.append_nil _).symm⟩

theorem linesState_append_iff {xs ys : List (List Char)} :
    LinesState lexing previous (xs ++ ys) statements last ↔
      ∃ next before after, LinesState lexing previous xs before next ∧
        LinesState lexing next ys after last ∧ statements = before ++ after := by
  induction xs generalizing previous statements with
  | nil =>
      constructor
      · exact fun h => ⟨previous, [], statements, .nil previous, h, rfl⟩
      · rintro ⟨next, before, after, hnil, hys, rfl⟩
        cases hnil
        exact hys
  | cons line xs ih =>
      constructor
      · intro h
        obtain ⟨next, own, rest, hline, hrest, rfl⟩ := linesState_cons_iff.mp h
        obtain ⟨last', before, after, hxs, hys, rfl⟩ := ih.mp hrest
        exact ⟨last', own ++ before, after, .cons hline hxs, hys, (List.append_assoc ..).symm⟩
      · rintro ⟨last', before, after, hxs, hys, rfl⟩
        obtain ⟨next, own, rest, hline, hrest, rfl⟩ := linesState_cons_iff.mp hxs
        rw [List.append_assoc]
        exact .cons hline (ih.mpr ⟨last', rest, after, hrest, hys, rfl⟩)

/-- Nothing is lost when the endings are taken off the lines. -/
theorem linesState_linesOfPieces_iff {pieces : List (List Char)} :
    LinesState lexing previous (linesOfPieces pieces) statements last ↔
      LinesState lexing previous pieces statements last := by
  fun_induction linesOfPieces pieces generalizing previous statements with
  | case1 => rfl
  | case2 line hempty =>
      rw [List.isEmpty_iff.mp hempty, linesState_singleton_iff,
        lineStates_blank_iff blank_nil]
      constructor
      · intro h
        cases h
        exact ⟨rfl, rfl⟩
      · rintro ⟨rfl, rfl⟩
        exact .nil last
  | case3 => rfl
  | case4 line rest hrest ih =>
      have hline : ∀ {next before}, LineStates lexing previous (dropReturn line) before next ↔
          LineStates lexing previous line before next := by
        intro next before
        unfold dropReturn
        split
        · next hlast =>
            obtain ⟨front, rfl⟩ := List.getLast?_eq_some_iff.mp hlast
            rw [List.dropLast_concat,
              lineStates_append_blank_iff (List.forall_mem_singleton.mpr (by decide))]
        · rfl
      simp only [linesState_cons_iff, hline, ih]

def Segment.statement (lexing : Lexing) (segment : Segment) : Statement :=
  (segment.left, Token.ofText lexing segment.text)

theorem map_statement_segments (rule : RuleLine) :
    (segments rule).map (Segment.statement lexing) =
      statementsOf lexing rule.left rule.rights := by
  rw [segments, List.map_map, statementsOf]
  rfl

/-- Lines state what their segments do, if none of them is at fault. -/
theorem exists_linesState_iff (number : ℕ) {lines : List (List Char)} :
    (∃ last, LinesState lexing previous lines statements last) ↔
      faultsOf (readLines previous number lines) = [] ∧
        statements = ((rulesOf (readLines previous number lines)).flatMap segments).map
          (Segment.statement lexing) := by
  induction lines generalizing previous number statements with
  | nil =>
      constructor
      · rintro ⟨last, hnil⟩
        cases hnil
        exact ⟨rfl, rfl⟩
      · rintro ⟨-, rfl⟩
        exact ⟨previous, .nil previous⟩
  | cons line lines ih =>
      have hcons : (∃ last, LinesState lexing previous (line :: lines) statements last) ↔
          ∃ next before after, LineStates lexing previous line before next ∧
            (∃ last, LinesState lexing next lines after last) ∧ statements = before ++ after := by
        simp only [linesState_cons_iff]
        constructor
        · rintro ⟨last, next, before, after, hline, hlines, heq⟩
          exact ⟨next, before, after, hline, ⟨last, hlines⟩, heq⟩
        · rintro ⟨next, before, after, hline, ⟨last, hlines⟩, heq⟩
          exact ⟨last, next, before, after, hline, hlines, heq⟩
      rw [hcons, readLines]
      by_cases hblank : line.all isBlank = true
      · simp only [lineStates_blank_iff (all_isBlank_iff.mp hblank), if_pos hblank,
          ih (number + 1)]
        simp
      · simp only [lineStates_iff_readLine, if_neg hblank, ih (number + 1)]
        rw [all_isBlank_iff] at hblank
        cases hread : readLine previous line with
        | error fault =>
            constructor
            · rintro ⟨next, before, after, ⟨hline, -⟩ | ⟨left, rights, hok, -⟩, -⟩
              · exact absurd hline hblank
              · cases hok
            · rintro ⟨hfaults, -⟩
              cases hfaults
        | ok read =>
            have hsegments : ((rulesOf (.ok ⟨number, read.1, read.2⟩ ::
                readLines (some read.1) (number + 1) lines)).flatMap segments).map
                  (Segment.statement lexing) = statementsOf lexing read.1 read.2 ++
                ((rulesOf (readLines (some read.1) (number + 1) lines)).flatMap segments).map
                  (Segment.statement lexing) := by
              rw [rulesOf, List.flatMap_cons, List.map_append, map_statement_segments]
            constructor
            · rintro ⟨next, before, after, ⟨hline, -⟩ | ⟨left, rights, hok, rfl, rfl⟩,
                ⟨hfaults, rfl⟩, rfl⟩
              · exact absurd hline hblank
              · cases hok
                exact ⟨hfaults, hsegments.symm⟩
            · rintro ⟨hfaults, rfl⟩
              exact ⟨_, _, _, .inr ⟨read.1, read.2, rfl, rfl, rfl⟩, ⟨hfaults, rfl⟩, hsegments⟩

end Reading

namespace Grammar

open Reading

variable {g : Grammar} {lexing : Lexing} {text text' : String}

/-! ### The grammar of a text -/

theorem declareLeft_declareLeft (g : Grammar) (left : Symbol) :
    (g.declareLeft left).declareLeft left = g.declareLeft left := by
  have hinsert : (g.declareLeft left).symbols.insert left = (g.declareLeft left).symbols := by
    rw [declareLeft, symbols_declare]
    refine if_pos ?_
    unfold SymbolTable.insert
    split
    · assumption
    · simp [SymbolTable.symbols_push]
  have hdeclared : ((g.declareLeft left).production? left).isSome = true := by
    rw [declareLeft, production?_declare, if_pos rfl]
    rfl
  rw [declareLeft, hinsert]
  exact declare_eq_self hdeclared

theorem foldl_declareLeft_of_left {left : Symbol} {statements : List Statement}
    (hne : statements ≠ []) (h : ∀ s ∈ statements, s.1 = left) (g : Grammar) :
    statements.foldl (fun g s => g.declareLeft s.1) g = g.declareLeft left := by
  induction statements generalizing g with
  | nil => exact absurd rfl hne
  | cons s rest ih =>
      obtain ⟨rfl, hrest⟩ := List.forall_mem_cons.mp h
      cases rest with
      | nil => rfl
      | cons t rest =>
          rw [List.foldl_cons, ih (List.cons_ne_nil _ _) hrest, declareLeft_declareLeft]

/-- The left sides of rules are declared in the order of what the rules state. -/
theorem foldl_declareLeft_statements (lexing : Lexing) (rules : List RuleLine) (g : Grammar) :
    rules.foldl (fun g rule => g.declareLeft rule.left) g =
      ((rules.flatMap segments).map (Segment.statement lexing)).foldl
        (fun g s => g.declareLeft s.1) g := by
  induction rules generalizing g with
  | nil => rfl
  | cons rule rest ih =>
      have hne : statementsOf lexing rule.left rule.rights ≠ [] := by
        simp [statementsOf, List.splitOn_ne_nil]
      have hleft : ∀ s ∈ statementsOf lexing rule.left rule.rights, s.1 = rule.left := by
        simp [statementsOf]
      rw [List.foldl_cons, ih, List.flatMap_cons, List.map_append, List.foldl_append,
        map_statement_segments, foldl_declareLeft_of_left hne hleft]

theorem readSequence_congr {xs ys : List Char} (h : Token.ofText lexing xs = Token.ofText lexing ys)
    (g : Grammar) : g.readSequence lexing xs = g.readSequence lexing ys := by
  rw [readSequence, h, readSequence]

theorem addSegments_congr {xs ys : List Segment}
    (h : xs.map (Segment.statement lexing) = ys.map (Segment.statement lexing)) (g : Grammar) :
    (addSegments lexing g xs).1 = (addSegments lexing g ys).1 ∧
      ((addSegments lexing g xs).2 = [] ↔ (addSegments lexing g ys).2 = []) := by
  induction xs generalizing ys g with
  | nil =>
      obtain rfl := List.map_eq_nil_iff.mp h.symm
      exact ⟨rfl, .rfl⟩
  | cons x xs ih =>
      cases ys with
      | nil => simp at h
      | cons y ys =>
          obtain ⟨hhead, htail⟩ := List.cons.inj h
          obtain ⟨hleft, htokens⟩ := Prod.mk.inj hhead
          rw [addSegments, addSegments, readSequence_congr htokens, hleft]
          cases g.readSequence lexing y.text with
          | mk g' read =>
              cases read with
              | ok sequence => exact ih htail _
              | error error => exact ⟨(ih htail g').1, by simp⟩

theorem parse_eq_ok_iff : parse lexing text = .ok g ↔ load lexing text = (g, []) := by
  unfold parse
  split
  · next g' hload => simp [hload]
  · next g' e rest hload => simp [hload]

theorem exists_textStates (h : (load lexing text).2 = []) :
    ∃ statements last, TextStates lexing none text.toList statements last := by
  have hfaults := faultsOf_eq_nil_of_faultless h
  obtain ⟨last, hlines⟩ := (exists_linesState_iff 1).mpr ⟨hfaults, rfl⟩
  exact ⟨_, last, linesState_linesOfPieces_iff.mp hlines⟩

/-- What a text states is entered by segments that state it. -/
theorem exists_load_eq_of_textStates {statements : List Statement} {last : Option Symbol}
    (h : TextStates lexing none text.toList statements last) :
    ∃ segments : List Segment, segments.map (Segment.statement lexing) = statements ∧
      load lexing text =
        addSegments lexing (statements.foldl (fun g s => g.declareLeft s.1) empty) segments := by
  obtain ⟨hfaults, rfl⟩ :=
    (exists_linesState_iff 1).mp ⟨last, linesState_linesOfPieces_iff.mpr h⟩
  refine ⟨_, rfl, ?_⟩
  rw [← foldl_declareLeft_statements, load, Text.lines, hfaults]
  rfl

/-- Texts that state the same are read as the same grammar. -/
theorem parse_eq_ok_of_textStates {statements : List Statement} {last last' : Option Symbol}
    (hparse : parse lexing text = .ok g)
    (h : TextStates lexing none text.toList statements last)
    (h' : TextStates lexing none text'.toList statements last') : parse lexing text' = .ok g := by
  obtain ⟨xs, hxs, hload⟩ := exists_load_eq_of_textStates h
  obtain ⟨ys, hys, hload'⟩ := exists_load_eq_of_textStates h'
  obtain ⟨hgrammar, hfaultless⟩ := addSegments_congr (hxs.trans hys.symm)
    (statements.foldl (fun g s => g.declareLeft s.1) empty)
  rw [parse_eq_ok_iff, hload] at hparse
  rw [hparse] at hgrammar hfaultless
  rw [parse_eq_ok_iff, hload']
  exact Prod.ext hgrammar.symm (hfaultless.mp rfl)

end Grammar

end Predictive
