import Mathlib.Data.List.Infix
import Predictive.Text.Line

/-!
# Texts put together and taken apart

What comes back when a text that was put together from pieces is cut again: at its arrows, at bars
or line feeds, or into words. Each cut gives pieces without that at which it cuts, and the pieces of
a text are parts of it.

For a text to be cut as it was put together, its pieces must not have the separator in them. For
trimming they must also begin and end with something that is not blank (`Trimmed`); putting pieces
together keeps this (`Trimmed.intercalate`).
-/

namespace Predictive.Text

/-! ### Arrows -/

def NoArrow (cs : List Char) : Prop :=
  ¬ ['-', '>'] <:+: cs

/-- The text has exactly one arrow, with the given texts on its left and on its right. -/
def OneArrow (cs left right : List Char) : Prop :=
  cs = left ++ '-' :: '>' :: right ∧ NoArrow left ∧ NoArrow right

theorem noArrow_nil : NoArrow [] := by
  simp [NoArrow]

theorem noArrow_cons {c : Char} {cs : List Char} :
    NoArrow (c :: cs) ↔ ¬ ['-', '>'] <+: c :: cs ∧ NoArrow cs := by
  simp only [NoArrow, List.infix_cons_iff, not_or]

theorem modifyHead_splitArrow (c : Char) (cs : List Char) :
    ∃ piece pieces, splitArrow cs = piece :: pieces ∧
      (splitArrow cs).modifyHead (c :: ·) = (c :: piece) :: pieces := by
  cases h : splitArrow cs with
  | nil => exact absurd h (splitArrow_ne_nil cs)
  | cons piece pieces => exact ⟨piece, pieces, rfl, rfl⟩

theorem intercalate_splitArrow (cs : List Char) :
    ['-', '>'].intercalate (splitArrow cs) = cs := by
  fun_induction splitArrow cs with
  | case1 => rfl
  | case2 cs ih =>
      cases h : splitArrow cs with
      | nil => exact absurd h (splitArrow_ne_nil cs)
      | cons piece pieces =>
          rw [h] at ih
          rw [List.intercalate_cons_cons, ih]
          rfl
  | case3 c cs _ ih =>
      obtain ⟨piece, pieces, h, hhead⟩ := modifyHead_splitArrow c cs
      rw [hhead]
      rw [h] at ih
      cases pieces with
      | nil => simp_all
      | cons next pieces =>
          rw [List.intercalate_cons_cons] at ih ⊢
          rw [List.cons_append, List.cons_append, ih]

theorem prefix_of_splitArrow_eq_cons {cs piece : List Char} {pieces : List (List Char)}
    (h : splitArrow cs = piece :: pieces) : piece <+: cs := by
  rw [← intercalate_splitArrow cs, h]
  cases pieces with
  | nil => simp
  | cons next pieces =>
      rw [List.intercalate_cons_cons, List.append_assoc]
      exact List.prefix_append _ _

theorem noArrow_of_mem_splitArrow {cs piece : List Char} (h : piece ∈ splitArrow cs) :
    NoArrow piece := by
  fun_induction splitArrow cs generalizing piece with
  | case1 => exact List.mem_singleton.mp h ▸ noArrow_nil
  | case2 cs ih =>
      rcases List.mem_cons.mp h with rfl | h
      · exact noArrow_nil
      · exact ih h
  | case3 c cs hne ih =>
      obtain ⟨first, pieces, hsplit, hhead⟩ := modifyHead_splitArrow c cs
      rw [hsplit] at ih
      rw [hhead] at h
      rcases List.mem_cons.mp h with rfl | h
      · -- The text begins with the first piece, so an arrow from `c` on would have been cut there.
        refine noArrow_cons.mpr ⟨?_, ih List.mem_cons_self⟩
        rintro ⟨rest, hrest⟩
        simp only [List.cons_append, List.nil_append, List.cons.injEq] at hrest
        obtain ⟨rfl, rfl⟩ := hrest
        obtain ⟨after, rfl⟩ := prefix_of_splitArrow_eq_cons hsplit
        exact hne _ rfl rfl
      · exact ih (List.mem_cons_of_mem _ h)

/-- A text is cut at its first arrow. -/
theorem splitArrow_append {left : List Char} (h : NoArrow left) (right : List Char) :
    splitArrow (left ++ '-' :: '>' :: right) = left :: splitArrow right := by
  induction left with
  | nil => rfl
  | cons c left ih =>
      obtain ⟨hhead, hleft⟩ := noArrow_cons.mp h
      rw [List.cons_append, splitArrow, ih hleft, List.modifyHead_cons]
      rintro cs rfl hcs
      cases left with
      | nil => simp at hcs
      | cons d left =>
          obtain rfl : d = '>' := (List.cons.inj hcs).1
          exact hhead (List.prefix_append _ left)

theorem splitArrow_of_noArrow {cs : List Char} (h : NoArrow cs) : splitArrow cs = [cs] := by
  induction cs with
  | nil => rfl
  | cons c cs ih =>
      obtain ⟨hhead, hcs⟩ := noArrow_cons.mp h
      rw [splitArrow, ih hcs, List.modifyHead_cons]
      rintro rest rfl rfl
      exact hhead (List.prefix_append _ _)

theorem splitArrow_eq_singleton_iff {cs text : List Char} :
    splitArrow cs = [text] ↔ NoArrow cs ∧ text = cs := by
  constructor
  · intro h
    have heq := intercalate_splitArrow cs
    have hpiece := noArrow_of_mem_splitArrow (h ▸ List.mem_cons_self : text ∈ splitArrow cs)
    rw [h, List.intercalate_singleton] at heq
    exact ⟨heq ▸ hpiece, heq⟩
  · rintro ⟨h, rfl⟩
    exact splitArrow_of_noArrow h

theorem splitArrow_eq_pair_iff {cs left right : List Char} :
    splitArrow cs = [left, right] ↔ OneArrow cs left right := by
  constructor
  · intro h
    have heq := intercalate_splitArrow cs
    have hpiece : ∀ piece ∈ [left, right], NoArrow piece :=
      fun piece hmem => noArrow_of_mem_splitArrow (h ▸ hmem)
    simp only [List.forall_mem_cons] at hpiece
    rw [h] at heq
    refine ⟨?_, hpiece.1, hpiece.2.1⟩
    simpa [List.intercalate_cons_cons] using heq.symm
  · rintro ⟨rfl, hleft, hright⟩
    rw [splitArrow_append hleft, splitArrow_of_noArrow hright]

/-- An arrow in front of another one is either the same or before it. -/
theorem eq_or_exists_of_arrow_eq {between xs ys : List Char}
    (h : '-' :: '>' :: xs = between ++ '-' :: '>' :: ys) :
    between = [] ∧ xs = ys ∨
      ∃ rest, between = '-' :: '>' :: rest ∧ xs = rest ++ '-' :: '>' :: ys := by
  match between with
  | [] => exact .inl ⟨rfl, by simpa using h⟩
  | [c] => simp at h
  | c :: d :: rest =>
      simp only [List.cons_append, List.cons.injEq] at h
      obtain ⟨rfl, rfl, rfl⟩ := h
      exact .inr ⟨rest, rfl, rfl⟩

/-- A text with one arrow has no other place to be cut at an arrow. -/
theorem OneArrow.unique {cs left right xs ys : List Char} (h : OneArrow cs left right)
    (hcs : cs = xs ++ '-' :: '>' :: ys) : xs = left ∧ ys = right := by
  obtain ⟨rfl, hleft, hright⟩ := h
  rcases List.append_eq_append_iff.mp hcs with ⟨between, rfl, heq⟩ | ⟨between, rfl, heq⟩
  · rcases eq_or_exists_of_arrow_eq heq with ⟨rfl, rfl⟩ | ⟨rest, rfl, rfl⟩
    · exact ⟨List.append_nil _, rfl⟩
    · exact absurd ⟨rest, ys, by simp⟩ hright
  · rcases eq_or_exists_of_arrow_eq heq with ⟨rfl, rfl⟩ | ⟨rest, rfl, rfl⟩
    · exact ⟨(List.append_nil _).symm, rfl⟩
    · exact absurd ⟨xs, rest, by simp⟩ hleft

theorem NoArrow.of_isInfix {xs ys : List Char} (h : NoArrow xs) (hpart : ys <:+: xs) : NoArrow ys :=
  fun harrow => h (harrow.trans hpart)

/-- A character that is part of no arrow keeps what is before it and behind it apart. -/
theorem noArrow_append_cons {c : Char} (hleft : c ≠ '-') (hright : c ≠ '>') {xs ys : List Char} :
    NoArrow (xs ++ c :: ys) ↔ NoArrow xs ∧ NoArrow ys := by
  induction xs with
  | nil =>
      have hhead : ¬ ['-', '>'] <+: c :: ys := by
        simp [hleft.symm]
      simp [noArrow_cons, hhead, noArrow_nil]
  | cons d xs ih =>
      have hhead : ['-', '>'] <+: d :: (xs ++ c :: ys) ↔ ['-', '>'] <+: d :: xs := by
        cases xs with
        | nil => simp [hright.symm]
        | cons e xs => simp
      rw [List.cons_append, noArrow_cons, noArrow_cons, ih, hhead, and_assoc]

theorem noArrow_of_notMem {cs : List Char} (h : '-' ∉ cs) : NoArrow cs :=
  fun hpart => h (hpart.subset List.mem_cons_self)

theorem noArrow_append_separator {separator : List Char} (hne : separator ≠ [])
    (h : ∀ c ∈ separator, c ≠ '-' ∧ c ≠ '>') {xs ys : List Char} (hxs : NoArrow xs)
    (hys : NoArrow ys) : NoArrow (xs ++ (separator ++ ys)) := by
  induction separator generalizing xs with
  | nil => exact absurd rfl hne
  | cons c separator ih =>
      obtain ⟨⟨hleft, hright⟩, hrest⟩ := List.forall_mem_cons.mp h
      refine (noArrow_append_cons hleft hright).mpr ⟨hxs, ?_⟩
      cases separator with
      | nil => exact hys
      | cons d separator => exact ih (List.cons_ne_nil _ _) hrest noArrow_nil

/-! ### Pieces -/

/-- What holds of all pieces holds of the text, if putting two parts together keeps it. -/
theorem intercalate_induction {P : List Char → Prop} {separator : List Char}
    (hjoin : ∀ xs ys, P xs → P ys → P (xs ++ (separator ++ ys))) {pieces : List (List Char)}
    (hnil : pieces = [] → P []) (hpieces : ∀ piece ∈ pieces, P piece) :
    P (separator.intercalate pieces) := by
  induction pieces with
  | nil => exact hnil rfl
  | cons piece pieces ih =>
      obtain ⟨hpiece, hrest⟩ := List.forall_mem_cons.mp hpieces
      cases pieces with
      | nil => simpa using hpiece
      | cons next pieces =>
          rw [List.intercalate_cons_cons, List.append_assoc]
          exact hjoin _ _ hpiece (ih (by simp) hrest)

theorem notMem_intercalate {c : Char} {separator : List Char} (h : c ∉ separator)
    {pieces : List (List Char)} (hpieces : ∀ piece ∈ pieces, c ∉ piece) :
    c ∉ separator.intercalate pieces :=
  intercalate_induction (P := fun cs => c ∉ cs) (fun xs ys hxs hys => by simp [hxs, h, hys])
    (by simp) hpieces

theorem noArrow_intercalate {separator : List Char} (hne : separator ≠ [])
    (h : ∀ c ∈ separator, c ≠ '-' ∧ c ≠ '>') {pieces : List (List Char)}
    (hpieces : ∀ piece ∈ pieces, NoArrow piece) : NoArrow (separator.intercalate pieces) :=
  intercalate_induction (fun _ _ hxs hys => noArrow_append_separator hne h hxs hys)
    (fun _ => noArrow_nil) hpieces

section SplitOnP

variable {p : Char → Bool}

theorem prefix_of_splitOnP_eq_cons {cs piece : List Char} {pieces : List (List Char)}
    (h : cs.splitOnP p = piece :: pieces) : piece <+: cs := by
  induction cs generalizing piece pieces with
  | nil =>
      rw [List.splitOnP_nil] at h
      simp [← (List.cons.inj h).1]
  | cons c cs ih =>
      rw [List.splitOnP_cons_eq_if_modifyHead] at h
      split at h
      · simp [← (List.cons.inj h).1]
      · cases hcs : cs.splitOnP p with
        | nil => exact absurd hcs (List.splitOnP_ne_nil p cs)
        | cons first rest =>
            rw [hcs, List.modifyHead_cons] at h
            rw [← (List.cons.inj h).1]
            exact List.cons_prefix_cons.mpr ⟨rfl, ih hcs⟩

theorem infix_of_mem_splitOnP {cs piece : List Char} (h : piece ∈ cs.splitOnP p) :
    piece <:+: cs ∧ ∀ c ∈ piece, p c = false := by
  induction cs generalizing piece with
  | nil =>
      rw [List.splitOnP_nil, List.mem_singleton] at h
      simp [h]
  | cons c cs ih =>
      rw [List.splitOnP_cons_eq_if_modifyHead] at h
      split at h
      · rcases List.mem_cons.mp h with rfl | h
        · simp
        · exact ⟨List.infix_cons (ih h).1, (ih h).2⟩
      · next hc =>
          cases hcs : cs.splitOnP p with
          | nil => exact absurd hcs (List.splitOnP_ne_nil p cs)
          | cons first rest =>
              rw [hcs] at ih
              rw [hcs, List.modifyHead_cons] at h
              rcases List.mem_cons.mp h with rfl | h
              · have hfront : c :: first <+: c :: cs :=
                  List.cons_prefix_cons.mpr ⟨rfl, prefix_of_splitOnP_eq_cons hcs⟩
                refine ⟨hfront.isInfix, List.forall_mem_cons.mpr ⟨?_, (ih List.mem_cons_self).2⟩⟩
                simpa using hc
              · have hrest := ih (List.mem_cons_of_mem _ h)
                exact ⟨List.infix_cons hrest.1, hrest.2⟩

end SplitOnP

/-! ### Blanks -/

theorem trim_isInfix (cs : List Char) : trim cs <:+: cs := by
  have hright : trimRight (trimLeft cs) <+: trimLeft cs := by
    rw [← List.reverse_suffix, trimRight, List.reverse_reverse]
    exact List.dropWhile_suffix _
  exact hright.isInfix.trans (List.dropWhile_suffix _).isInfix

structure Trimmed (cs : List Char) : Prop where
  ne_nil : cs ≠ []
  head : ∀ c ∈ cs.head?, isBlank c = false
  last : ∀ c ∈ cs.getLast?, isBlank c = false

structure IsWord (cs : List Char) : Prop where
  ne_nil : cs ≠ []
  not_blank : ∀ c ∈ cs, isBlank c = false

theorem IsWord.trimmed {word : List Char} (h : IsWord word) : Trimmed word where
  ne_nil := h.ne_nil
  head c hc := h.not_blank c (List.mem_of_head? hc)
  last c hc := h.not_blank c (List.mem_of_getLast? hc)

theorem Trimmed.intercalate {separator : List Char} {pieces : List (List Char)}
    (hne : pieces ≠ []) (h : ∀ piece ∈ pieces, Trimmed piece) :
    Trimmed (separator.intercalate pieces) := by
  refine intercalate_induction (fun xs ys hxs hys => ?_) (fun hnil => absurd hnil hne) h
  refine ⟨by simp [hxs.ne_nil], ?_, ?_⟩
  · rw [List.head?_append_of_ne_nil _ hxs.ne_nil]
    exact hxs.head
  · rw [← List.append_assoc, List.getLast?_append_of_ne_nil _ hys.ne_nil]
    exact hys.last

/-- Blanks around a text are all that trimming takes away. -/
theorem trim_append {before cs after : List Char} (hbefore : ∀ c ∈ before, isBlank c = true)
    (h : Trimmed cs) (hafter : ∀ c ∈ after, isBlank c = true) :
    trim (before ++ (cs ++ after)) = cs := by
  have hfront : ∀ {xs : List Char} (ys : List Char), xs ≠ [] →
      (∀ c ∈ xs.head?, isBlank c = false) → (xs ++ ys).dropWhile isBlank = xs ++ ys := by
    intro xs ys hne hhead
    cases xs with
    | nil => exact absurd rfl hne
    | cons c xs => exact List.dropWhile_cons_of_neg (by simp [hhead c rfl])
  have hleft : trimLeft (before ++ (cs ++ after)) = cs ++ after := by
    rw [trimLeft, List.dropWhile_append_of_pos hbefore]
    exact hfront after h.ne_nil h.head
  have hback : (cs.reverse ++ []).dropWhile isBlank = cs.reverse ++ [] :=
    hfront [] (by simpa using h.ne_nil) (by simpa using h.last)
  rw [List.append_nil] at hback
  rw [trim, hleft, trimRight, List.reverse_append,
    List.dropWhile_append_of_pos (by simpa using hafter), hback, List.reverse_reverse]

/-! ### Words -/

theorem isWord_of_mem_words {cs word : List Char} (h : word ∈ words cs) :
    IsWord word ∧ word <:+: cs := by
  obtain ⟨hpart, hblank⟩ := infix_of_mem_splitOnP (List.mem_filter.mp h).1
  exact ⟨⟨ne_nil_of_mem_words h, hblank⟩, hpart⟩

theorem words_cons_blank {c : Char} (hc : isBlank c = true) (cs : List Char) :
    words (c :: cs) = words cs :=
  words_append_blank hc [] cs

theorem words_append_singleton {c : Char} (hc : isBlank c = true) (cs : List Char) :
    words (cs ++ [c]) = words cs := by
  rw [words_append_blank hc cs []]
  exact List.append_nil _

theorem words_intercalate {ws : List (List Char)} (h : ∀ w ∈ ws, IsWord w) :
    words ([' '].intercalate ws) = ws := by
  induction ws with
  | nil => rfl
  | cons w ws ih =>
      obtain ⟨hw, hws⟩ := List.forall_mem_cons.mp h
      have hsingle := words_eq_singleton hw.ne_nil hw.not_blank
      cases ws with
      | nil => simpa using hsingle
      | cons next ws =>
          rw [List.intercalate_cons_cons, List.append_assoc, List.singleton_append,
            words_append_blank (by decide), hsingle, ih hws, List.singleton_append]

/-! ### Bars -/

theorem map_words_splitOn_cons {c : Char} (hc : isBlank c = true) (cs : List Char) :
    ((c :: cs).splitOn '|').map words = (cs.splitOn '|').map words := by
  have hbar : c ≠ '|' := by
    rintro rfl
    exact absurd hc (by decide)
  rw [List.splitOn_cons_eq_if_modifyHead, if_neg (by simpa using hbar)]
  cases h : cs.splitOn '|' with
  | nil => rfl
  | cons piece pieces =>
      rw [List.modifyHead_cons, List.map_cons, words_cons_blank hc, List.map_cons]

/-- Cutting at the bars gives the pieces back, up to spaces around them. -/
theorem map_words_splitOn_intercalate {pieces : List (List Char)} (hne : pieces ≠ [])
    (h : ∀ piece ∈ pieces, '|' ∉ piece) :
    (([' ', '|', ' '].intercalate pieces).splitOn '|').map words = pieces.map words := by
  induction pieces with
  | nil => exact absurd rfl hne
  | cons piece pieces ih =>
      obtain ⟨hpiece, hpieces⟩ := List.forall_mem_cons.mp h
      cases pieces with
      | nil => rw [List.intercalate_singleton, List.splitOn_eq_singleton hpiece]
      | cons next pieces =>
          have hspace : '|' ∉ piece ++ [' '] := by simpa using hpiece
          have hsplit : [' ', '|', ' '].intercalate (piece :: next :: pieces) =
              (piece ++ [' ']) ++ '|' :: ' ' :: [' ', '|', ' '].intercalate (next :: pieces) := by
            simp [List.intercalate_cons_cons]
          rw [hsplit, List.splitOn_append_cons_self_of_not_mem hspace, List.map_cons,
            words_append_singleton (by decide), map_words_splitOn_cons (by decide),
            ih (List.cons_ne_nil _ _) hpieces, List.map_cons (l := next :: pieces)]

/-! ### Lines -/

theorem filter_linesOfPieces {pieces : List (List Char)}
    (hreturn : ∀ piece ∈ pieces, '\r' ∉ piece) :
    (linesOfPieces pieces).filter (fun line => !line.all isBlank) =
      pieces.filter fun line => !line.all isBlank := by
  fun_induction linesOfPieces pieces with
  | case1 => rfl
  | case2 last hlast => simp_all
  | case3 last hlast => rfl
  | case4 line rest hrest ih =>
      obtain ⟨hline, hpieces⟩ := List.forall_mem_cons.mp hreturn
      have hkeeps : dropReturn line = line := by
        refine if_neg fun hlast => hline ?_
        exact List.mem_of_getLast? hlast
      rw [hkeeps, List.filter_cons, ih hpieces, List.filter_cons]

/-- Lines with line feeds between them are the lines of the text, blank ones aside. -/
theorem filter_lines_intercalate {pieces : List (List Char)}
    (hfeed : ∀ piece ∈ pieces, '\n' ∉ piece) (hreturn : ∀ piece ∈ pieces, '\r' ∉ piece) :
    (lines (['\n'].intercalate pieces)).filter (fun line => !line.all isBlank) =
      pieces.filter fun line => !line.all isBlank := by
  cases pieces with
  | nil => rfl
  | cons piece pieces =>
      rw [lines, List.splitOn_intercalate _ hfeed (List.cons_ne_nil _ _)]
      exact filter_linesOfPieces hreturn

end Predictive.Text
