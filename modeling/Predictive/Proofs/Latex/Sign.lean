import Mathlib.Data.List.Forall2
import Mathlib.Data.List.Infix
import Predictive.Report.Latex

/-!
# Signs, braces and rows of a LaTeX text

LaTeX reads a text sign by sign. A backslash takes the next character with it, so a brace or an
ampersand behind a backslash is no brace and no column separator. `\\` ends a row.

A text is `Contained` when whatever stands around it is read as if the text were not there: no
backslash is left over at its end, its braces belong together and no row ends in it. Contained texts
can be put one behind the other, and their column separators add up (`Contained.append`). `Rows` is
a text of several rows, each of them contained, with the number of separators in each of them.

An escaped name is contained and has no column separator (`Escapes.contained`).
-/

namespace Predictive.Latex

/-- What LaTeX reads at a time. A backslash at the end of a text waits for what comes next. -/
inductive Sign
  | plain (c : Char)
  | escaped (c : Char)
  | dangling
deriving DecidableEq

def signs : List Char → List Sign
  | [] => []
  | ['\\'] => [.dangling]
  | '\\' :: c :: rest => .escaped c :: signs rest
  | c :: rest => .plain c :: signs rest

namespace Sign

def opening : Sign := plain '\x7b'

def closing : Sign := plain '\x7d'

def separator : Sign := plain '&'

def rowEnd : Sign := escaped '\\'

end Sign

theorem signs_cons_of_ne {c : Char} (h : c ≠ '\\') (rest : List Char) :
    signs (c :: rest) = .plain c :: signs rest := by
  cases rest <;> simp [signs, h]

theorem signs_escaped (c : Char) (rest : List Char) :
    signs ('\\' :: c :: rest) = .escaped c :: signs rest := by
  simp [signs]

/-- Two texts are read one after the other, unless the first one ends with a backslash. -/
theorem signs_append {cs : List Char} (h : .dangling ∉ signs cs) (rest : List Char) :
    signs (cs ++ rest) = signs cs ++ signs rest := by
  fun_induction signs cs with
  | case1 => rfl
  | case2 => simp at h
  | case3 c cs ih =>
      rw [List.cons_append, List.cons_append, signs_escaped,
        ih (fun hmem => h (List.mem_cons_of_mem _ hmem)), List.cons_append]
  | case4 c cs hlast hnext ih =>
      have hne : c ≠ '\\' := by
        intro heq
        cases cs with
        | nil => exact hlast heq rfl
        | cons d cs => exact hnext d cs heq rfl
      rw [List.cons_append, signs_cons_of_ne hne,
        ih (fun hmem => h (List.mem_cons_of_mem _ hmem)), List.cons_append]

/-! ### Braces -/

/-- As many braces are closed as are opened, and none before it is opened. -/
structure Balanced (signs : List Sign) : Prop where
  count_eq : signs.count .opening = signs.count .closing
  closing_le : ∀ front, front <+: signs → front.count .closing ≤ front.count .opening

instance (signs : List Sign) : Decidable (Balanced signs) :=
  decidable_of_iff (signs.count .opening = signs.count .closing ∧
      ∀ front ∈ signs.inits, front.count .closing ≤ front.count .opening)
    ⟨fun h => ⟨h.1, fun front hfront => h.2 front ((List.mem_inits front signs).mpr hfront)⟩,
      fun h => ⟨h.count_eq, fun front hfront =>
        h.closing_le front ((List.mem_inits front signs).mp hfront)⟩⟩

namespace Balanced

variable {xs ys : List Sign}

theorem singleton {sign : Sign} (hopening : sign ≠ .opening) (hclosing : sign ≠ .closing) :
    Balanced [sign] where
  count_eq := by rw [List.count_cons_of_ne hopening, List.count_cons_of_ne hclosing]; rfl
  closing_le := fun front hfront => by
    have hle := hfront.sublist.count_le Sign.closing
    rw [List.count_cons_of_ne hclosing, List.count_nil] at hle
    exact hle.trans (Nat.zero_le _)

theorem append (hxs : Balanced xs) (hys : Balanced ys) : Balanced (xs ++ ys) where
  count_eq := by rw [List.count_append, List.count_append, hxs.count_eq, hys.count_eq]
  closing_le := by
    rintro front ⟨rest, hfront⟩
    rcases List.append_eq_append_iff.mp hfront with ⟨part, rfl, -⟩ | ⟨part, rfl, rfl⟩
    · exact hxs.closing_le front (List.prefix_append front part)
    · rw [List.count_append, List.count_append, hxs.count_eq]
      exact Nat.add_le_add_left (hys.closing_le part (List.prefix_append part rest)) _

theorem braced (h : Balanced xs) : Balanced (.opening :: (xs ++ [.closing])) := by
  have hcount := h.count_eq
  have hopening : List.count Sign.opening [.closing] = 0 := by decide
  have hclosing : ∀ ys, List.count Sign.closing (.opening :: ys) = ys.count .closing := fun ys =>
    List.count_cons_of_ne (by decide)
  refine ⟨?_, fun front hfront => ?_⟩
  · rw [hclosing, List.count_cons_self, List.count_append, List.count_append, hopening, hcount,
      List.count_singleton_self]
  · rcases List.prefix_cons_iff.mp hfront with rfl | ⟨inner, rfl, hinner⟩
    · exact Nat.le_refl 0
    · rw [hclosing, List.count_cons_self]
      rcases List.prefix_concat_iff.mp hinner with rfl | hinner
      · rw [List.count_append, List.count_append, hopening, hcount, List.count_singleton_self]
      · exact Nat.le_succ_of_le (h.closing_le inner hinner)

end Balanced

/-! ### Contained texts -/

/-- A text that stands by itself, with a number of column separators in it. -/
structure Contained (separators : ℕ) (cs : List Char) : Prop where
  dangling_notMem : .dangling ∉ signs cs
  balanced : Balanced (signs cs)
  rowEnd_notMem : .rowEnd ∉ signs cs
  count_eq : (signs cs).count .separator = separators

instance (separators : ℕ) (cs : List Char) : Decidable (Contained separators cs) :=
  decidable_of_iff (.dangling ∉ signs cs ∧ Balanced (signs cs) ∧ .rowEnd ∉ signs cs ∧
      (signs cs).count .separator = separators)
    ⟨fun h => ⟨h.1, h.2.1, h.2.2.1, h.2.2.2⟩,
      fun h => ⟨h.dangling_notMem, h.balanced, h.rowEnd_notMem, h.count_eq⟩⟩

namespace Contained

variable {m n : ℕ} {xs ys : List Char}

theorem nil : Contained 0 [] := by decide

theorem append (hxs : Contained m xs) (hys : Contained n ys) : Contained (m + n) (xs ++ ys) := by
  have hsigns := signs_append hxs.dangling_notMem ys
  refine ⟨?_, ?_, ?_, ?_⟩
  · rw [hsigns, List.mem_append, not_or]
    exact ⟨hxs.dangling_notMem, hys.dangling_notMem⟩
  · exact hsigns ▸ hxs.balanced.append hys.balanced
  · rw [hsigns, List.mem_append, not_or]
    exact ⟨hxs.rowEnd_notMem, hys.rowEnd_notMem⟩
  · rw [hsigns, List.count_append, hxs.count_eq, hys.count_eq]

/-- Texts without column separators in a row, with the same text between any two of them. -/
theorem intercalate_cons {separator text : String} {texts : List String}
    (hseparator : Contained n separator.toList) (htext : Contained 0 text.toList)
    (h : ∀ text ∈ texts, Contained 0 text.toList) :
    Contained (texts.length * n) (separator.intercalate (text :: texts)).toList := by
  rw [String.toList_intercalate, List.map_cons]
  induction texts generalizing text with
  | nil => simpa using htext
  | cons next texts ih =>
      obtain ⟨hnext, htexts⟩ := List.forall_mem_cons.mp h
      have hall := (htext.append hseparator).append (ih hnext htexts)
      rw [List.map_cons, List.intercalate_cons_cons, List.length_cons, Nat.add_one_mul,
        Nat.add_comm]
      rwa [Nat.zero_add] at hall

theorem intercalate {separator : String} {texts : List String}
    (hseparator : Contained 0 separator.toList) (h : ∀ text ∈ texts, Contained 0 text.toList) :
    Contained 0 (separator.intercalate texts).toList := by
  cases texts with
  | nil => exact nil
  | cons text texts =>
      obtain ⟨htext, htexts⟩ := List.forall_mem_cons.mp h
      exact hseparator.intercalate_cons htext htexts

theorem forall₂_map {α : Type} {count : α → ℕ} {text : α → String} {xs : List α}
    (h : ∀ x ∈ xs, Contained (count x) (text x).toList) :
    List.Forall₂ (fun n text => Contained n text.toList) (xs.map count) (xs.map text) := by
  rw [List.forall₂_map_left_iff, List.forall₂_map_right_iff, List.forall₂_same]
  exact h

theorem braced {text : String} (h : Contained n text.toList) :
    Contained n (Latex.braced text).toList := by
  have hsigns : signs (Latex.braced text).toList =
      .opening :: (signs text.toList ++ [.closing]) := by
    have hopening : "\x7b".toList = ['\x7b'] := rfl
    have hclosing : "\x7d".toList = ['\x7d'] := rfl
    rw [Latex.braced, String.toList_append, String.toList_append, hopening, hclosing,
      List.singleton_append, List.cons_append, signs_cons_of_ne (by decide),
      signs_append h.dangling_notMem]
    rfl
  refine ⟨?_, ?_, ?_, ?_⟩
  · simpa [hsigns, Sign.opening, Sign.closing] using h.dangling_notMem
  · exact hsigns ▸ h.balanced.braced
  · simpa [hsigns, Sign.opening, Sign.closing, Sign.rowEnd] using h.rowEnd_notMem
  · simpa [hsigns, Sign.opening, Sign.closing, Sign.separator] using h.count_eq

theorem upright {text : String} (h : Contained n text.toList) :
    Contained n (Latex.upright text).toList := by
  have hcommand : Contained 0 "\\text".toList := by decide
  rw [Latex.upright, String.toList_append, ← Nat.zero_add n]
  exact hcommand.append h.braced

end Contained

/-! ### Escaped names -/

theorem contained_singleton {c : Char} (h : c ∉ ['\\', '\x7b', '\x7d', '&']) :
    Contained 0 [c] := by
  have hplain : ∀ d ∈ ['\\', '\x7b', '\x7d', '&'], Sign.plain c ≠ .plain d := by
    rintro d hd ⟨⟩
    exact h hd
  have hsigns : signs [c] = [.plain c] := signs_cons_of_ne (fun heq => h (by simp [heq])) []
  refine ⟨?_, ?_, ?_, ?_⟩ <;> rw [hsigns]
  · simp
  · exact .singleton (hplain _ (by decide)) (hplain _ (by decide))
  · simp [Sign.rowEnd]
  · exact List.count_eq_zero.mpr fun hmem =>
      hplain '&' (by decide) (List.mem_singleton.mp hmem).symm

theorem contained_escapeChar (c : Char) : Contained 0 (escapeChar c) := by
  unfold escapeChar
  split_ifs with hacts hbracket _ _ _ _ _ hbackslash
  case pos => rcases hacts with rfl | rfl | rfl | rfl | rfl | rfl | rfl <;> decide
  case pos => rcases hbracket with rfl | rfl <;> decide
  case neg =>
    -- The character is written as it is, so it is none of those that LaTeX acts on.
    exact contained_singleton (by simp; tauto)
  all_goals decide

theorem contained_escapeChars (cs : List Char) : Contained 0 (escapeChars cs) := by
  fun_induction escapeChars cs with
  | case1 => decide
  | case2 rest ih =>
      have hhyphen : Contained 0 "-\x7b\x7d".toList := by decide
      exact hhyphen.append ih
  | case3 c rest _ ih => exact (contained_escapeChar c).append ih

/-- A name is read as it stands, whatever its characters are. -/
theorem Escapes.contained {escape : String → String} (h : Escapes escape) (text : String) :
    Contained 0 (escape text).toList := by
  rw [h text]
  exact contained_escapeChars text.toList

/-! ### Rows -/

inductive Rows : List ℕ → List Char → Prop
  | last {n : ℕ} {cs : List Char} (h : Contained n cs) : Rows [n] cs
  | cons {n : ℕ} {counts : List ℕ} {cs rest : List Char} (h : Contained n cs)
      (hrest : Rows counts rest) : Rows (n :: counts) (cs ++ '\\' :: '\\' :: rest)

namespace Rows

variable {n : ℕ} {xs ys : List ℕ} {cs ds : List Char}

theorem ne_nil (h : Rows xs cs) : xs ≠ [] := by
  cases h <;> exact List.cons_ne_nil _ _

theorem contained_append (hcs : Contained 0 cs) (hds : Rows ys ds) : Rows ys (cs ++ ds) := by
  cases hds with
  | @last n ds hds => exact Nat.zero_add n ▸ .last (hcs.append hds)
  | @cons n counts ds rest hds hrest =>
      rw [← List.append_assoc, ← Nat.zero_add n]
      exact .cons (hcs.append hds) hrest

theorem append_contained (hcs : Rows xs cs) (hds : Contained 0 ds) : Rows xs (cs ++ ds) := by
  induction hcs with
  | last hcs => exact .last (hcs.append hds)
  | cons hcs _ ih => exact List.append_assoc .. ▸ .cons hcs ih

theorem append (hcs : Rows (xs ++ [0]) cs) (hds : Rows ys ds) : Rows (xs ++ ys) (cs ++ ds) := by
  -- On the rows of the first text. Its last row has no row end, so the second text continues it.
  generalize hcounts : xs ++ [0] = counts at hcs
  induction hcs generalizing xs with
  | last hcs =>
      obtain ⟨rfl, rfl⟩ : xs = [] ∧ 0 = _ := by simpa [List.append_eq_singleton_iff] using hcounts
      exact contained_append hcs hds
  | cons hcs hrest ih =>
      cases xs with
      | nil => exact absurd (List.cons.inj hcounts).2.symm hrest.ne_nil
      | cons x xs =>
          rw [List.cons_append, List.cons.injEq] at hcounts
          obtain ⟨rfl, hcounts⟩ := hcounts
          rw [List.append_assoc]
          exact .cons hcs (ih hcounts)

theorem concat (hcs : Rows xs cs) (hds : Rows ys ds) :
    Rows (xs ++ ys) (cs ++ '\\' :: '\\' :: ds) := by
  induction hcs with
  | last hcs => exact .cons hcs hds
  | cons hcs _ ih => exact List.append_assoc .. ▸ .cons hcs ih

theorem intercalate {separator : String} {gap : List Char}
    (hseparator : separator.toList = '\\' :: '\\' :: gap) (hgap : Contained 0 gap)
    {counts : List ℕ} {texts : List String} (hne : texts ≠ [])
    (h : List.Forall₂ (fun n text => Contained n text.toList) counts texts) :
    Rows counts (separator.intercalate texts).toList := by
  rw [String.toList_intercalate, hseparator]
  induction h with
  | nil => exact absurd rfl hne
  | @cons n text counts texts htext h ih =>
      cases h with
      | nil => exact .last (by simpa using htext)
      | cons hnext h =>
          rw [List.map_cons, List.map_cons, List.intercalate_cons_cons, List.append_assoc]
          exact .cons htext (contained_append hgap (ih (List.cons_ne_nil _ _)))

/-- What a reader finds who cuts the text at its row ends. -/
theorem cut (h : Rows xs cs) :
    .dangling ∉ signs cs ∧ Balanced (signs cs) ∧
      (∀ row ∈ (signs cs).splitOn .rowEnd, Balanced row) ∧
      ((signs cs).splitOn .rowEnd).map (List.count .separator) = xs := by
  induction h with
  | last h =>
      rw [List.splitOn_eq_singleton h.rowEnd_notMem, List.map_singleton, h.count_eq,
        List.forall_mem_singleton]
      exact ⟨h.dangling_notMem, h.balanced, h.balanced, rfl⟩
  | @cons n counts cs rest h _ ih =>
      obtain ⟨hdangling, hbalanced, hrows, hcounts⟩ := ih
      have hend : Balanced [.rowEnd] := by decide
      rw [signs_append h.dangling_notMem, signs_escaped, ← Sign.rowEnd,
        List.splitOn_append_cons_self_of_not_mem h.rowEnd_notMem, List.forall_mem_cons,
        List.map_cons, hcounts, h.count_eq]
      refine ⟨?_, h.balanced.append (hend.append hbalanced), ⟨h.balanced, hrows⟩, rfl⟩
      simpa [Sign.rowEnd, hdangling] using h.dangling_notMem

end Rows

end Predictive.Latex
