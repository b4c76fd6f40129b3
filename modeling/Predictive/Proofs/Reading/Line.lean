import Predictive.Grammar.Reading
import Predictive.Proofs.Text

/-!
# Which lines are understood

A line is understood in one of two ways. It has exactly one arrow and a name of a non-terminal on
the left of it, or it has no arrow, begins with a bar and continues the line before it, which was
understood; the left side is then that of the line before. `Accepted` says this of a list of lines,
the latest first, and `Reads` of a whole text, line by line with the lines before each of them.

One piece between the arrows of a line means no arrow and two pieces mean one arrow, so both ways
are those of `readLine`; and what the reading of lines keeps of the line before is just its left
side, if it was understood (`reads_readLines`).
-/

namespace Predictive

namespace Reading

/-- The latest of some lines, given in front of those before it, is understood as a left side and
the text of its right sides. -/
inductive Accepted : List (List Char) → Symbol → List Char → Prop
  | rule {line left right : List Char} (before : List (List Char))
      (harrow : Text.OneArrow line left right)
      (hname : isNonTerminalName (Text.trim left) = true) :
      Accepted (line :: before) (.nonTerminal (String.ofList (Text.trim left))) (Text.trim right)
  | continuation {line rest rights : List Char} {before : List (List Char)} {left : Symbol}
      (harrow : Text.NoArrow line) (hbar : Text.trim line = '|' :: rest)
      (hbefore : Accepted before left rights) :
      Accepted (line :: before) left (Text.trim rest)

def filled (number : ℕ) (lines : List (List Char)) : List (List Char × ℕ) :=
  (lines.zipIdx number).filter fun l => !l.1.all Text.isBlank

/-- Numbered lines that come after some lines, the latest of these in front, are read as rules and
the numbers of the lines that are not understood. -/
inductive Reads : List (List Char) → List (List Char × ℕ) → List RuleLine → List ℕ → Prop
  | nil (before : List (List Char)) : Reads before [] [] []
  | accept {before lines rules rejected} {line rights : List Char} {number : ℕ} {left : Symbol}
      (hline : Accepted (line :: before) left rights)
      (hlines : Reads (line :: before) lines rules rejected) :
      Reads before ((line, number) :: lines) (⟨number, left, rights⟩ :: rules) rejected
  | reject {before lines rules rejected} {line : List Char} {number : ℕ}
      (hline : ∀ left rights, ¬ Accepted (line :: before) left rights)
      (hlines : Reads (line :: before) lines rules rejected) :
      Reads before ((line, number) :: lines) rules (number :: rejected)

/-! ### One line -/

theorem leftSide_eq_ok_iff {cs : List Char} {s : Symbol} :
    leftSide cs = .ok s ↔ isNonTerminalName cs = true ∧ s = .nonTerminal (String.ofList cs) := by
  cases cs with
  | nil => simp [leftSide, isNonTerminalName]
  | cons c cs =>
      by_cases hname : isNonTerminalName (c :: cs) = true
      · simp [leftSide, hname, eq_comm]
      · simp [leftSide, hname]

theorem readLine_eq_ok_iff {previous : Option Symbol} {line rights : List Char} {left : Symbol} :
    readLine previous line = .ok (left, rights) ↔
      (∃ l r, Text.OneArrow line l r ∧ isNonTerminalName (Text.trim l) = true ∧
        left = .nonTerminal (String.ofList (Text.trim l)) ∧ rights = Text.trim r) ∨
      (Text.NoArrow line ∧ ∃ rest, Text.trim line = '|' :: rest ∧ previous = some left ∧
        rights = Text.trim rest) := by
  constructor
  · intro h
    unfold readLine at h
    split at h
    · next l r hsplit =>
        cases hleft : leftSide (Text.trim l) with
        | error fault => simp [hleft, Except.map] at h
        | ok s =>
            obtain ⟨hname, rfl⟩ := leftSide_eq_ok_iff.mp hleft
            simp only [hleft, Except.map, Except.ok.injEq, Prod.mk.injEq] at h
            obtain ⟨rfl, rfl⟩ := h
            exact .inl ⟨l, r, Text.splitArrow_eq_pair_iff.mp hsplit, hname, rfl, rfl⟩
    · next text hsplit =>
        obtain ⟨harrow, rfl⟩ := Text.splitArrow_eq_singleton_iff.mp hsplit
        split at h
        · next rest left' htext =>
            simp only [Except.ok.injEq, Prod.mk.injEq] at h
            obtain ⟨rfl, rfl⟩ := h
            exact .inr ⟨harrow, rest, htext, rfl, rfl⟩
        · cases h
        · cases h
    · cases h
  · rintro (⟨l, r, harrow, hname, rfl, rfl⟩ | ⟨harrow, rest, hbar, rfl, rfl⟩)
    · have hleft := leftSide_eq_ok_iff.mpr ⟨hname, rfl⟩
      simp only [readLine, Text.splitArrow_eq_pair_iff.mpr harrow, hleft, Except.map]
    · simp only [readLine, Text.splitArrow_of_noArrow harrow, hbar]

/-- What is wrong with a line as a whole is never one of its symbols. -/
theorem readLine_ne_symbol {previous : Option Symbol} {line : List Char} {fault : LineFault}
    (h : readLine previous line = .error fault) (error : SymbolError) : fault ≠ .symbol error := by
  rintro rfl
  unfold readLine at h
  split at h
  · next l r _ =>
      cases hleft : leftSide (Text.trim l) with
      | ok s => simp [hleft, Except.map] at h
      | error fault =>
          simp only [hleft, Except.map, Except.error.injEq] at h
          unfold leftSide at hleft
          split at hleft
          · simp_all
          · split at hleft <;> simp_all
  · split at h <;> cases h
  · cases h

/-- What is kept of the lines before a line is the left side that the latest of them gave. -/
def Remembers (previous : Option Symbol) (before : List (List Char)) : Prop :=
  ∀ left, previous = some left ↔ ∃ rights, Accepted before left rights

theorem readLine_eq_ok_iff_accepted {previous : Option Symbol} {before : List (List Char)}
    (h : Remembers previous before) {line rights : List Char} {left : Symbol} :
    readLine previous line = .ok (left, rights) ↔ Accepted (line :: before) left rights := by
  rw [readLine_eq_ok_iff]
  constructor
  · rintro (⟨l, r, harrow, hname, rfl, rfl⟩ | ⟨harrow, rest, hbar, hprevious, rfl⟩)
    · exact .rule before harrow hname
    · obtain ⟨rights, hbefore⟩ := (h left).mp hprevious
      exact .continuation harrow hbar hbefore
  · intro haccepted
    cases haccepted with
    | rule _ harrow hname => exact .inl ⟨_, _, harrow, hname, rfl, rfl⟩
    | continuation harrow hbar hbefore =>
        exact .inr ⟨harrow, _, hbar, (h left).mpr ⟨_, hbefore⟩, rfl⟩

theorem Accepted.unique {lines : List (List Char)} {left left' : Symbol}
    {rights rights' : List Char} (h : Accepted lines left rights)
    (h' : Accepted lines left' rights') : left = left' ∧ rights = rights' := by
  induction h generalizing left' rights' with
  | rule before harrow hname =>
      have hsplit := Text.splitArrow_eq_pair_iff.mpr harrow
      cases h' with
      | rule _ harrow' _ =>
          have heq := hsplit.symm.trans (Text.splitArrow_eq_pair_iff.mpr harrow')
          simp only [List.cons.injEq, and_true] at heq
          obtain ⟨rfl, rfl⟩ := heq
          exact ⟨rfl, rfl⟩
      | continuation harrow' _ _ =>
          have heq := hsplit.symm.trans (Text.splitArrow_of_noArrow harrow')
          simp at heq
  | continuation harrow hbar hbefore ih =>
      have hsplit := Text.splitArrow_of_noArrow harrow
      cases h' with
      | rule _ harrow' _ =>
          have heq := hsplit.symm.trans (Text.splitArrow_eq_pair_iff.mpr harrow')
          simp at heq
      | continuation _ hbar' hbefore' =>
          obtain rfl := (List.cons.inj (hbar.symm.trans hbar')).2
          exact ⟨(ih hbefore').1, rfl⟩

theorem remembers_nil : Remembers none [] := by
  intro left
  refine iff_of_false (by simp) ?_
  rintro ⟨rights, h⟩
  cases h

/-- The left side that a line gave is kept, and after a line that was not understood none. -/
theorem Remembers.readLine {previous : Option Symbol} {before : List (List Char)}
    (h : Remembers previous before) (line : List Char) :
    Remembers ((Reading.readLine previous line).toOption.map Prod.fst) (line :: before) := by
  intro left
  simp only [← readLine_eq_ok_iff_accepted h]
  cases Reading.readLine previous line with
  | error fault => simp [Except.toOption]
  | ok read => simp [Except.toOption, Prod.ext_iff]

/-! ### All lines -/

theorem filled_cons_of_blank {line : List Char} (h : line.all Text.isBlank = true) (number : ℕ)
    (lines : List (List Char)) : filled number (line :: lines) = filled (number + 1) lines := by
  simp [filled, List.zipIdx_cons, h]

theorem filled_cons_of_not_blank {line : List Char} (h : ¬ line.all Text.isBlank = true)
    (number : ℕ) (lines : List (List Char)) :
    filled number (line :: lines) = (line, number) :: filled (number + 1) lines := by
  simp [filled, List.zipIdx_cons, h]

theorem map_fst_filled (number : ℕ) (lines : List (List Char)) :
    (filled number lines).map Prod.fst = lines.filter fun line => !line.all Text.isBlank := by
  induction lines generalizing number with
  | nil => rfl
  | cons line lines ih =>
      by_cases hblank : line.all Text.isBlank = true
      · rw [filled_cons_of_blank hblank, ih, List.filter_cons_of_neg (by simp [hblank])]
      · rw [filled_cons_of_not_blank hblank, List.map_cons, ih,
          List.filter_cons_of_pos (by simpa using hblank)]

/-- The rules and the faults of a text are those of its lines. -/
theorem reads_readLines {previous : Option Symbol} {before : List (List Char)}
    (h : Remembers previous before) (number : ℕ) (lines : List (List Char)) :
    Reads before (filled number lines) (rulesOf (readLines previous number lines))
      ((faultsOf (readLines previous number lines)).map LineError.line) := by
  induction lines generalizing previous before number with
  | nil => exact .nil before
  | cons line lines ih =>
      rw [readLines]
      by_cases hblank : line.all Text.isBlank = true
      · rw [if_pos hblank, filled_cons_of_blank hblank]
        exact ih h (number + 1)
      · rw [if_neg hblank, filled_cons_of_not_blank hblank]
        have hnext := h.readLine line
        have hiff : ∀ left rights, Reading.readLine previous line = .ok (left, rights) ↔
            Accepted (line :: before) left rights :=
          fun _ _ => readLine_eq_ok_iff_accepted h
        cases hline : readLine previous line with
        | ok read =>
            rw [hline] at hnext
            exact .accept ((hiff _ _).mp hline) (ih hnext (number + 1))
        | error fault =>
            rw [hline] at hnext
            refine .reject (fun left rights haccepted => ?_) (ih hnext (number + 1))
            rw [(hiff _ _).mpr haccepted] at hline
            cases hline

theorem fault_ne_symbol_of_mem_readLines {previous : Option Symbol} {number : ℕ}
    {lines : List (List Char)} {e : LineError}
    (h : e ∈ faultsOf (readLines previous number lines)) (error : SymbolError) :
    e.fault ≠ .symbol error := by
  induction lines generalizing previous number with
  | nil => cases h
  | cons line lines ih =>
      rw [readLines] at h
      split at h
      · exact ih h
      · split at h
        · exact ih h
        · next fault hline =>
            rcases List.mem_cons.mp h with rfl | h
            · exact readLine_ne_symbol hline error
            · exact ih h

theorem Reads.unique {before : List (List Char)} {lines : List (List Char × ℕ)}
    {rules rules' : List RuleLine} {rejected rejected' : List ℕ}
    (h : Reads before lines rules rejected) (h' : Reads before lines rules' rejected') :
    rules = rules' ∧ rejected = rejected' := by
  induction h generalizing rules' rejected' with
  | nil before =>
      cases h'
      exact ⟨rfl, rfl⟩
  | accept hline hlines ih =>
      cases h' with
      | accept hline' hlines' =>
          obtain ⟨rfl, rfl⟩ := hline.unique hline'
          obtain ⟨rfl, rfl⟩ := ih hlines'
          exact ⟨rfl, rfl⟩
      | reject hline' _ => exact absurd hline (hline' _ _)
  | reject hline hlines ih =>
      cases h' with
      | accept hline' _ => exact absurd hline' (hline _ _)
      | reject _ hlines' =>
          obtain ⟨rfl, rfl⟩ := ih hlines'
          exact ⟨rfl, rfl⟩

end Reading

end Predictive
