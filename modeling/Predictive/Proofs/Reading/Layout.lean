import Mathlib.Logic.Relation
import Predictive.Proofs.Reading.Statement

/-!
# Line layout

A rule may be written on one line or on several, and blanks may stand around its parts. `LayoutEdit`
has the edits that change no more than this: a line is broken at a bar, the left side is written
again in place of a bar, blank lines come and go, and so do blanks at the ends of a line, around its
arrow and around its bars. None of them changes what the lines state (`LayoutEdit.linesState`), so
none changes the grammar that is read (`parse_eq_ok_of_relaid`).

Each edit is local, but what the edited lines state depends on the left side that the lines before
leave off with. This is the one in front of the last arrow (`LeavesOff`), which is why it can be
written again.
-/

namespace Predictive

namespace Reading

open Text

variable {lexing : Lexing} {previous next last : Option Symbol} {statements : List Statement}

inductive LeavesOff : List (List Char) → List Char → Prop
  | intro (front : List (List Char)) {line left rights : List Char} {behind : List (List Char)}
      (harrow : OneArrow line left rights) (hbehind : ∀ other ∈ behind, NoArrow other) :
      LeavesOff (front ++ line :: behind) (trim left)

inductive LayoutEdit : List (List Char) → List (List Char) → Prop
  /-- A line feed is put in front of a bar. -/
  | breakAtBar (before after : List (List Char)) (left right : List Char) :
      LayoutEdit (before ++ (left ++ '|' :: right) :: after)
        (before ++ left :: ('|' :: right) :: after)
  /-- A bar is replaced by a line feed and the current left side with an arrow. -/
  | repeatLeft {before : List (List Char)} (after : List (List Char)) {left name : List Char}
      (right : List Char) (hname : LeavesOff (before ++ [left]) name) :
      LayoutEdit (before ++ (left ++ '|' :: right) :: after)
        (before ++ left :: (name ++ '-' :: '>' :: right) :: after)
  /-- Blank lines are put between lines or taken away. -/
  | blankLines (before after : List (List Char)) {blanks blanks' : List (List Char)}
      (hblanks : ∀ line ∈ blanks, Blank line) (hblanks' : ∀ line ∈ blanks', Blank line) :
      LayoutEdit (before ++ (blanks ++ after)) (before ++ (blanks' ++ after))
  /-- Blanks are put at the ends of a line or taken away. -/
  | lineEnds (before after : List (List Char)) (line : List Char)
      {front front' back back' : List Char}
      (hfront : Blank front) (hfront' : Blank front') (hback : Blank back) (hback' : Blank back') :
      LayoutEdit (before ++ (front ++ (line ++ back)) :: after)
        (before ++ (front' ++ (line ++ back')) :: after)
  /-- Blanks are put around an arrow or taken away. -/
  | aroundArrow (before after : List (List Char)) (left right : List Char)
      {front front' back back' : List Char}
      (hfront : Blank front) (hfront' : Blank front') (hback : Blank back) (hback' : Blank back') :
      LayoutEdit (before ++ (left ++ front ++ '-' :: '>' :: (back ++ right)) :: after)
        (before ++ (left ++ front' ++ '-' :: '>' :: (back' ++ right)) :: after)
  /-- Blanks are put around a bar or taken away. -/
  | aroundBar (before after : List (List Char)) (left right : List Char)
      {front front' back back' : List Char}
      (hfront : Blank front) (hfront' : Blank front') (hback : Blank back) (hback' : Blank back') :
      LayoutEdit (before ++ (left ++ front ++ '|' :: (back ++ right)) :: after)
        (before ++ (left ++ front' ++ '|' :: (back' ++ right)) :: after)

/-! ### The left side that lines leave off with -/

theorem LineStates.eq_previous_of_noArrow {line : List Char} (hno : NoArrow line)
    (h : LineStates lexing previous line statements next) : next = previous := by
  cases h with
  | blank => rfl
  | @rule left rights => exact absurd ⟨left, rights, by simp⟩ hno
  | continuation => rfl

theorem LinesState.eq_previous_of_noArrow {lines : List (List Char)}
    (hno : ∀ line ∈ lines, NoArrow line) (h : LinesState lexing previous lines statements last) :
    last = previous := by
  induction h with
  | nil => rfl
  | cons hline _ ih =>
      obtain ⟨hfirst, hrest⟩ := List.forall_mem_cons.mp hno
      rw [ih hrest, hline.eq_previous_of_noArrow hfirst]

/-- Lines that are understood leave off with the left side in front of their last arrow. -/
theorem LinesState.eq_of_leavesOff {lines : List (List Char)} {name : List Char}
    (hname : LeavesOff lines name) (h : LinesState lexing previous lines statements last) :
    isNonTerminalName (trim name) = true ∧ last = some (leftNamed name) := by
  obtain ⟨front, ⟨rfl, -, -⟩, hbehind⟩ := hname
  obtain ⟨_, _, _, _, hrest, -⟩ := linesState_append_iff.mp h
  obtain ⟨_, _, _, hline, hlines, -⟩ := linesState_cons_iff.mp hrest
  obtain ⟨hleft, -, -, rfl⟩ := lineStates_arrow_iff.mp hline
  rw [hlines.eq_previous_of_noArrow hbehind, leftNamed, leftNamed, trim_trim]
  exact ⟨hleft, rfl⟩

/-! ### One edit -/

/-- Lines may be replaced by others that state the same wherever these do. -/
theorem LinesState.replace {before after : List (List Char)} (lines lines' : List (List Char))
    (hlines : ∀ {previous next : Option Symbol} {statements : List Statement},
      LinesState lexing previous lines statements next →
        LinesState lexing previous lines' statements next)
    (h : LinesState lexing previous (before ++ (lines ++ after)) statements last) :
    LinesState lexing previous (before ++ (lines' ++ after)) statements last := by
  obtain ⟨mid, first, rest, hbefore, hrest, rfl⟩ := linesState_append_iff.mp h
  obtain ⟨next, own, behind, hown, hafter, rfl⟩ := linesState_append_iff.mp hrest
  exact linesState_append_iff.mpr ⟨mid, first, own ++ behind, hbefore,
    linesState_append_iff.mpr ⟨next, own, behind, hlines hown, hafter, rfl⟩, rfl⟩

theorem LinesState.replaceLine {before after : List (List Char)} {line line' : List Char}
    (hline : ∀ {previous next : Option Symbol} {statements : List Statement},
      LineStates lexing previous line statements next →
        LineStates lexing previous line' statements next)
    (h : LinesState lexing previous (before ++ line :: after) statements last) :
    LinesState lexing previous (before ++ line' :: after) statements last :=
  h.replace [line] [line'] fun hstates =>
    linesState_singleton_iff.mpr (hline (linesState_singleton_iff.mp hstates))

theorem linesState_blank_iff {lines : List (List Char)} (h : ∀ line ∈ lines, Blank line) :
    LinesState lexing previous lines statements last ↔ statements = [] ∧ last = previous := by
  induction lines generalizing previous statements with
  | nil =>
      constructor
      · rintro ⟨⟩
        exact ⟨rfl, rfl⟩
      · rintro ⟨rfl, rfl⟩
        exact .nil last
  | cons line lines ih =>
      obtain ⟨hline, hlines⟩ := List.forall_mem_cons.mp h
      simp only [linesState_cons_iff, lineStates_blank_iff hline, ih hlines]
      constructor
      · rintro ⟨_, _, _, ⟨rfl, rfl⟩, ⟨rfl, rfl⟩, rfl⟩
        exact ⟨rfl, rfl⟩
      · rintro ⟨rfl, rfl⟩
        exact ⟨last, [], [], ⟨rfl, rfl⟩, ⟨rfl, rfl⟩, rfl⟩

theorem LineStates.replaceEnds {line front front' back back' : List Char} (hfront : Blank front)
    (hfront' : Blank front') (hback : Blank back) (hback' : Blank back')
    (h : LineStates lexing previous (front ++ (line ++ back)) statements next) :
    LineStates lexing previous (front' ++ (line ++ back')) statements next := by
  rw [lineStates_blank_append_iff hfront, lineStates_append_blank_iff hback] at h
  rwa [lineStates_blank_append_iff hfront', lineStates_append_blank_iff hback']

theorem LineStates.replaceAroundArrow {left right front front' back back' : List Char}
    (hfront : Blank front) (hfront' : Blank front') (hback : Blank back) (hback' : Blank back')
    (h : LineStates lexing previous (left ++ front ++ '-' :: '>' :: (back ++ right)) statements
      next) :
    LineStates lexing previous (left ++ front' ++ '-' :: '>' :: (back' ++ right)) statements
      next := by
  rw [lineStates_arrow_iff, trim_append_blank hfront, noArrow_blank_append_iff hback,
    statementsOf_blank_append hback, leftNamed_append_blank hfront] at h
  rwa [lineStates_arrow_iff, trim_append_blank hfront', noArrow_blank_append_iff hback',
    statementsOf_blank_append hback', leftNamed_append_blank hfront']

theorem LineStates.replaceAroundBar {left right front front' back back' : List Char}
    (hfront : Blank front) (hfront' : Blank front') (hback : Blank back) (hback' : Blank back')
    (h : LineStates lexing previous (left ++ front ++ '|' :: (back ++ right)) statements next) :
    LineStates lexing previous (left ++ front' ++ '|' :: (back' ++ right)) statements next := by
  simp only [lineStates_bar_iff, lineStates_append_blank_iff hfront,
    noArrow_blank_append_iff hback, statementsOf_blank_append hback] at h
  simpa only [lineStates_bar_iff, lineStates_append_blank_iff hfront',
    noArrow_blank_append_iff hback', statementsOf_blank_append hback'] using h

theorem LayoutEdit.linesState {lines lines' : List (List Char)} (hedit : LayoutEdit lines lines')
    (h : LinesState lexing previous lines statements last) :
    LinesState lexing previous lines' statements last := by
  cases hedit with
  | breakAtBar before after left right =>
      refine h.replace [left ++ '|' :: right] [left, '|' :: right] ?_
      intro previous next statements hstates
      obtain ⟨name, own, hright, hleft, rfl, rfl⟩ :=
        lineStates_bar_iff.mp (linesState_singleton_iff.mp hstates)
      have hbar : LineStates lexing (some name) ('|' :: right) (statementsOf lexing name right)
          (some name) :=
        lineStates_bar_iff.mpr ⟨name, [], hright, .blank _ blank_nil, rfl, rfl⟩
      exact .cons hleft (linesState_singleton_iff.mpr hbar)
  | @repeatLeft before after left name right hname =>
      -- The lines up to the bar leave off with the left side that is written again.
      obtain ⟨mid, first, rest, hbefore, hrest, rfl⟩ := linesState_append_iff.mp h
      obtain ⟨next, own, behind, hline, hafter, rfl⟩ := linesState_cons_iff.mp hrest
      obtain ⟨current, front, hright, hleft, rfl, rfl⟩ := lineStates_bar_iff.mp hline
      have hfront : LinesState lexing previous (before ++ [left]) (first ++ front) (some current) :=
        linesState_append_iff.mpr
          ⟨mid, first, front, hbefore, linesState_singleton_iff.mpr hleft, rfl⟩
      obtain ⟨hvalid, hcurrent⟩ := hfront.eq_of_leavesOff hname
      obtain rfl := Option.some.inj hcurrent
      have hagain : LineStates lexing (some (leftNamed name)) (name ++ '-' :: '>' :: right)
          (statementsOf lexing (leftNamed name) right) (some (leftNamed name)) :=
        lineStates_arrow_iff.mpr ⟨hvalid, hright, rfl, rfl⟩
      rw [List.append_assoc front]
      exact linesState_append_iff.mpr
        ⟨mid, first, _, hbefore, .cons hleft (.cons hagain hafter), rfl⟩
  | blankLines before after hblanks hblanks' =>
      refine h.replace _ _ fun hstates => ?_
      rw [linesState_blank_iff hblanks] at hstates
      rwa [linesState_blank_iff hblanks']
  | lineEnds before after line hfront hfront' hback hback' =>
      exact h.replaceLine fun hstates => hstates.replaceEnds hfront hfront' hback hback'
  | aroundArrow before after left right hfront hfront' hback hback' =>
      exact h.replaceLine fun hstates => hstates.replaceAroundArrow hfront hfront' hback hback'
  | aroundBar before after left right hfront hfront' hback hback' =>
      exact h.replaceLine fun hstates => hstates.replaceAroundBar hfront hfront' hback hback'

/-- The two texts differ by one edit of the layout of their lines. -/
def Relaid (text other : String) : Prop :=
  LayoutEdit (text.toList.splitOn '\n') (other.toList.splitOn '\n')

theorem relaid_of_layoutEdit {text other : String} {lines lines' : List (List Char)}
    (htext : text.toList.splitOn '\n' = lines) (hother : other.toList.splitOn '\n' = lines')
    (hedit : LayoutEdit lines lines') : Relaid text other := by
  rwa [Relaid, htext, hother]

theorem Relaid.textStates {text other : String} (hedit : Relaid text other)
    (h : TextStates lexing previous text.toList statements last) :
    TextStates lexing previous other.toList statements last :=
  LayoutEdit.linesState hedit h

end Reading

namespace Grammar

open Text Reading Relation

variable {g : Grammar} {lexing : Lexing} {text other : String}

/-- A text whose layout was edited is read as the grammar that it was read as before. -/
theorem parse_eq_ok_of_relaid (hedits : ReflTransGen Relaid text other)
    (h : parse lexing text = .ok g) : parse lexing other = .ok g := by
  induction hedits with
  | refl => exact h
  | tail _ hedit ih =>
      have hfaultless := congrArg Prod.snd (parse_eq_ok_iff.mp ih)
      obtain ⟨statements, last, hstates⟩ := exists_textStates hfaultless
      exact parse_eq_ok_of_textStates ih hstates (hedit.textStates hstates)

theorem parse_eq_ok_of_relaid_bars :
    ReflTransGen Relaid "A -> a | b B\n\nB -> c | d" "A -> a \nA-> b B\nB->c \n| d" ∧
      ∃ g, parse .compact "A -> a | b B\n\nB -> c | d" = .ok g ∧
        parse .compact "A -> a \nA-> b B\nB->c \n| d" = .ok g := by
  have harrow : OneArrow "A -> a ".toList "A ".toList " a ".toList :=
    ⟨rfl, noArrow_of_notMem (by decide), noArrow_of_notMem (by decide)⟩
  have hleft : LeavesOff ([] ++ ["A -> a ".toList]) (trim "A ".toList) :=
    .intro [] harrow (List.forall_mem_nil _)
  have hempty : ∀ line ∈ [[]], Blank line := List.forall_mem_singleton.mpr blank_nil
  have hspace : Blank [' '] := List.forall_mem_singleton.mpr (by decide)
  have hrepeat : Relaid "A -> a | b B\n\nB -> c | d" "A -> a \nA-> b B\n\nB -> c | d" :=
    relaid_of_layoutEdit (by cbv) (by cbv)
      (.repeatLeft [[], "B -> c | d".toList] " b B".toList hleft)
  have hblank : Relaid "A -> a \nA-> b B\n\nB -> c | d" "A -> a \nA-> b B\nB -> c | d" :=
    relaid_of_layoutEdit (by cbv) (by cbv)
      (.blankLines ["A -> a ".toList, "A-> b B".toList] ["B -> c | d".toList] hempty
        (List.forall_mem_nil _))
  have haround : Relaid "A -> a \nA-> b B\nB -> c | d" "A -> a \nA-> b B\nB->c | d" :=
    relaid_of_layoutEdit (by cbv) (by cbv)
      (.aroundArrow ["A -> a ".toList, "A-> b B".toList] [] "B".toList "c | d".toList
        hspace blank_nil hspace blank_nil)
  have hbreak : Relaid "A -> a \nA-> b B\nB->c | d" "A -> a \nA-> b B\nB->c \n| d" :=
    relaid_of_layoutEdit (by cbv) (by cbv)
      (.breakAtBar ["A -> a ".toList, "A-> b B".toList] [] "B->c ".toList " d".toList)
  have hedits : ReflTransGen Relaid "A -> a | b B\n\nB -> c | d"
      "A -> a \nA-> b B\nB->c \n| d" :=
    (((ReflTransGen.single hrepeat).tail hblank).tail haround).tail hbreak
  have hread : (load .compact "A -> a | b B\n\nB -> c | d").2 = [] := by cbv
  have hparse := parse_eq_ok_iff.mpr (Prod.ext rfl hread)
  exact ⟨hedits, _, hparse, parse_eq_ok_of_relaid hedits hparse⟩

end Grammar

end Predictive
