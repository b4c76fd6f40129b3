import Mathlib.Data.List.Forall2
import Mathlib.Order.Bounds.Basic
import Predictive.Proofs.Text
import Predictive.Report.Columns

/-!
# A text in columns can be read again

A reader who has nothing but the text finds the columns by the bars of its first line (`measure`),
cuts every line at the same places (`cut?`) and drops the spaces that the texts were moved to the
right with (`texts?`). Bars in the texts of a later line do no harm, for that line is not searched
for bars. `shows_align` says that the reader gets the rows back that were set in columns.
-/

namespace Predictive.Columns

/-- Cuts a line into pieces of the given widths. Between two of them stands ` | `, and behind the
last one nothing. -/
def cut? : List ℕ → List Char → Option (List (List Char))
  | [], _ => none
  | [width], cs => if cs.length = width then some [cs] else none
  | width :: widths, cs =>
    match cs.drop width with
    | ' ' :: '|' :: ' ' :: rest => (cut? widths rest).map (cs.take width :: ·)
    | _ => none

def texts? (widths : List ℕ) (cs : List Char) : Option (List (List Char)) :=
  (cut? widths cs).map (List.map fun piece => piece.dropWhile (· == ' '))

/-- The widths of the columns of a line that has no bars but those between its columns. -/
def measure (cs : List Char) : List ℕ :=
  ((' ' :: (cs ++ [' '])).splitOn '|').map fun piece => piece.length - 2

/-- The lines of a text are rows set in columns. The columns are those of the first line, every one
of them is as wide as its widest text, and the texts are those of the rows. -/
structure Shows (cs : List Char) (rows : List (List (List Char))) : Prop where
  length_eq : ∀ line ∈ cs.splitOn '\n', ∀ other ∈ cs.splitOn '\n', line.length = other.length
  isGreatest : ∀ (j width : ℕ), (measure ((cs.splitOn '\n').headD []))[j]? = some width →
    IsGreatest {n | ∃ row ∈ rows, ∃ text, row[j]? = some text ∧ text.length = n} width
  texts_eq : (cs.splitOn '\n').map (texts? (measure ((cs.splitOn '\n').headD []))) =
    rows.map some

/-! ### Pieces with bars between them -/

section Pieces

variable {pieces : List (List Char)}

theorem cut?_append (piece : List Char) {widths : List ℕ} (hne : widths ≠ []) (rest : List Char) :
    cut? (piece.length :: widths) (piece ++ ' ' :: '|' :: ' ' :: rest) =
      (cut? widths rest).map (piece :: ·) := by
  cases widths with
  | nil => exact absurd rfl hne
  | cons width widths => simp [cut?]

theorem cut?_intercalate (hne : pieces ≠ []) :
    cut? (pieces.map List.length) ([' ', '|', ' '].intercalate pieces) = some pieces := by
  induction pieces with
  | nil => exact absurd rfl hne
  | cons piece pieces ih =>
      cases pieces with
      | nil => simp [cut?]
      | cons next pieces =>
          rw [List.intercalate_cons_cons, List.append_assoc, List.map_cons]
          exact (cut?_append piece (by simp) _).trans
            (congrArg (Option.map (piece :: ·)) (ih (List.cons_ne_nil _ _)))

theorem measure_intercalate (hne : pieces ≠ []) (hbar : ∀ piece ∈ pieces, '|' ∉ piece) :
    measure ([' ', '|', ' '].intercalate pieces) = pieces.map List.length := by
  induction pieces with
  | nil => exact absurd rfl hne
  | cons piece pieces ih =>
      obtain ⟨hpiece, hpieces⟩ := List.forall_mem_cons.mp hbar
      cases pieces with
      | nil =>
          rw [List.intercalate_singleton, measure,
            List.splitOn_eq_singleton (by simpa using hpiece)]
          simp
      | cons next pieces =>
          have hsplit : ' ' :: ([' ', '|', ' '].intercalate (piece :: next :: pieces) ++ [' ']) =
              (' ' :: (piece ++ [' '])) ++
                '|' :: ' ' :: ([' ', '|', ' '].intercalate (next :: pieces) ++ [' ']) := by
            simp [List.intercalate_cons_cons]
          rw [measure, hsplit, List.splitOn_append_cons_self_of_not_mem (by simpa using hpiece),
            List.map_cons, List.map_cons, ← ih (List.cons_ne_nil _ _) hpieces, measure]
          simp

theorem length_intercalate (hne : pieces ≠ []) :
    ([' ', '|', ' '].intercalate pieces).length + 3 =
      (pieces.map List.length).foldr (fun width total => width + 3 + total) 0 := by
  induction pieces with
  | nil => exact absurd rfl hne
  | cons piece pieces ih =>
      cases pieces with
      | nil => simp
      | cons next pieces =>
          have hrest := ih (List.cons_ne_nil _ _)
          rw [List.map_cons, List.foldr_cons, ← hrest, List.intercalate_cons_cons]
          simp only [List.length_append, List.length_cons, List.length_nil]
          omega

end Pieces

/-! ### Widths -/

theorem getElem?_widen (as bs : List ℕ) (j : ℕ) :
    (widen as bs)[j]? = Option.merge max as[j]? bs[j]? := by
  fun_induction widen as bs generalizing j with
  | case1 => simp
  | case2 => simp
  | case3 a as b bs ih => cases j <;> simp [ih]

theorem length_widen (as bs : List ℕ) : (widen as bs).length = max as.length bs.length := by
  fun_induction widen as bs with
  | case1 => simp
  | case2 => simp
  | case3 a as b bs ih => rw [List.length_cons, ih, List.length_cons, List.length_cons]; omega

variable {rows : List (List String)}

theorem length_widths {n : ℕ} (hne : rows ≠ []) (h : ∀ row ∈ rows, row.length = n) :
    (widths rows).length = n := by
  induction rows with
  | nil => exact absurd rfl hne
  | cons row rows ih =>
      obtain ⟨hrow, hrows⟩ := List.forall_mem_cons.mp h
      rw [widths, List.foldr_cons, length_widen, List.length_map, hrow]
      by_cases hnil : rows = []
      · simp [hnil]
      · rw [← widths, ih hnil hrows, max_self]

/-- The width of a column is the greatest of those of its texts, if it has any. -/
theorem getElem?_widths (rows : List (List String)) (j : ℕ) :
    (widths rows)[j]? = (rows.filterMap fun row => row[j]?.map String.length).max? := by
  induction rows with
  | nil => rfl
  | cons row rows ih =>
      rw [widths, List.foldr_cons, getElem?_widen, ← widths, ih, List.getElem?_map]
      cases h : row[j]? with
      | none => simp [h]
      | some text =>
          rw [List.filterMap_cons_some (by rw [h]; rfl), List.max?_cons]
          cases (rows.filterMap fun row => row[j]?.map String.length).max? <;> rfl

theorem isGreatest_widths {j width : ℕ} (h : (widths rows)[j]? = some width) :
    IsGreatest {n | ∃ row ∈ rows, ∃ text, row[j]? = some text ∧ text.length = n} width := by
  have hset : {n | ∃ row ∈ rows, ∃ text, row[j]? = some text ∧ text.length = n} =
      {n | n ∈ rows.filterMap fun row => row[j]?.map String.length} := by
    ext n
    simp [List.mem_filterMap, Option.map_eq_some_iff]
  rw [getElem?_widths, List.max?_eq_some_iff] at h
  rw [hset]
  exact h

def Fits (widths : List ℕ) (row : List String) : Prop :=
  List.Forall₂ (fun width text => text.length ≤ width) widths row

theorem fits_widths {row : List String} (hrow : row ∈ rows)
    (hlength : row.length = (widths rows).length) : Fits (widths rows) row := by
  rw [Fits, List.forall₂_iff_get]
  refine ⟨hlength.symm, fun j hwidth htext => ?_⟩
  have hgreatest := isGreatest_widths (List.getElem?_eq_getElem hwidth)
  exact hgreatest.2 ⟨row, hrow, _, List.getElem?_eq_getElem htext, rfl⟩

/-! ### Lines -/

/-- A text for a column: it is on one line, and no space stands in front of it. -/
structure Settable (text : String) : Prop where
  noFeed : '\n' ∉ text.toList
  head : ∀ c ∈ text.toList.head?, c ≠ ' '

theorem toList_padLeft (width : ℕ) (text : String) :
    (padLeft width text).toList = List.replicate (width - text.length) ' ' ++ text.toList := by
  simp [padLeft]

theorem Settable.dropWhile_padLeft {text : String} (h : Settable text) (width : ℕ) :
    (padLeft width text).toList.dropWhile (· == ' ') = text.toList := by
  rw [toList_padLeft, List.dropWhile_append_of_pos (by simp)]
  cases htext : text.toList with
  | nil => rfl
  | cons c cs => exact List.dropWhile_cons_of_neg (by simpa using h.head c (by simp [htext]))

def pieces (widths : List ℕ) (row : List String) : List (List Char) :=
  (List.zipWith padLeft widths row).map String.toList

theorem toList_line (widths : List ℕ) (row : List String) :
    (line widths row).toList = [' ', '|', ' '].intercalate (pieces widths row) := by
  have hbar : " | ".toList = [' ', '|', ' '] := by decide
  rw [line, String.toList_intercalate, hbar, pieces]

/-- Columns are filled up with spaces only. -/
theorem notMem_pieces {c : Char} (hc : c ≠ ' ') (ws : List ℕ) {row : List String}
    (h : ∀ text ∈ row, c ∉ text.toList) : ∀ piece ∈ pieces ws row, c ∉ piece := by
  induction row generalizing ws with
  | nil => simp [pieces]
  | cons text row ih =>
      obtain ⟨htext, hrow⟩ := List.forall_mem_cons.mp h
      cases ws with
      | nil => simp [pieces]
      | cons width ws =>
          rw [pieces, List.zipWith_cons_cons, List.map_cons, List.forall_mem_cons]
          exact ⟨by simp [toList_padLeft, hc, htext], ih ws hrow⟩

variable {ws : List ℕ} {row : List String}

theorem Fits.map_length_pieces (h : Fits ws row) : (pieces ws row).map List.length = ws := by
  induction h with
  | nil => rfl
  | @cons width text ws row hle _ ih =>
      have hwidth : (padLeft width text).toList.length = width := by
        rw [String.length_toList, length_padLeft, max_eq_left hle]
      rw [pieces, List.zipWith_cons_cons, List.map_cons, List.map_cons, hwidth]
      exact congrArg (width :: ·) ih

theorem Fits.pieces_ne_nil (h : Fits ws row) (hne : row ≠ []) : pieces ws row ≠ [] := by
  cases h with
  | nil => exact absurd rfl hne
  | cons => simp [pieces]

theorem Fits.map_dropWhile_pieces (h : Fits ws row) (hset : ∀ text ∈ row, Settable text) :
    (pieces ws row).map (fun piece => piece.dropWhile (· == ' ')) = row.map String.toList := by
  induction h with
  | nil => rfl
  | @cons width text ws row _ _ ih =>
      obtain ⟨htext, hrow⟩ := List.forall_mem_cons.mp hset
      rw [pieces, List.zipWith_cons_cons, List.map_cons, List.map_cons,
        htext.dropWhile_padLeft, List.map_cons]
      exact congrArg (text.toList :: ·) (ih hrow)

theorem Fits.length_line (h : Fits ws row) (hne : row ≠ []) :
    (line ws row).toList.length + 3 = ws.foldr (fun width total => width + 3 + total) 0 := by
  rw [toList_line, length_intercalate (h.pieces_ne_nil hne), h.map_length_pieces]

theorem Fits.texts?_line (h : Fits ws row) (hne : row ≠ []) (hset : ∀ text ∈ row, Settable text) :
    texts? ws (line ws row).toList = some (row.map String.toList) := by
  have hcut := cut?_intercalate (h.pieces_ne_nil hne)
  rw [h.map_length_pieces] at hcut
  rw [texts?, toList_line, hcut, Option.map_some, h.map_dropWhile_pieces hset]

theorem Fits.measure_line (h : Fits ws row) (hne : row ≠ [])
    (hbar : ∀ text ∈ row, '|' ∉ text.toList) : measure (line ws row).toList = ws := by
  rw [toList_line, measure_intercalate (h.pieces_ne_nil hne) (notMem_pieces (by decide) ws hbar),
    h.map_length_pieces]

/-! ### Rows -/

theorem splitOn_align (hne : rows ≠ []) (h : ∀ row ∈ rows, ∀ text ∈ row, Settable text) :
    (align rows).toList.splitOn '\n' = rows.map fun row => (line (widths rows) row).toList := by
  have hfeed : "\n".toList = ['\n'] := rfl
  have hlines : ∀ cs ∈ rows.map fun row => (line (widths rows) row).toList, '\n' ∉ cs := by
    refine List.forall_mem_map.mpr fun row hrow => ?_
    rw [toList_line]
    refine Text.notMem_intercalate (by decide) ?_
    exact notMem_pieces (by decide) _ fun text htext => (h row hrow text htext).noFeed
  rw [align, String.toList_intercalate, hfeed, List.map_map]
  exact List.splitOn_intercalate _ hlines (by simpa using hne)

/-- Rows of the same length are read again, when there are no bars in the first of them. -/
theorem shows_align {header : List String} (hne : header ≠ [])
    (hlength : ∀ row ∈ header :: rows, row.length = header.length)
    (hset : ∀ row ∈ header :: rows, ∀ text ∈ row, Settable text)
    (hbar : ∀ text ∈ header, '|' ∉ text.toList) :
    Shows (align (header :: rows)).toList ((header :: rows).map (List.map String.toList)) := by
  have hlines := splitOn_align (List.cons_ne_nil header rows) hset
  have hwidths := length_widths (List.cons_ne_nil header rows) hlength
  have hfits : ∀ row ∈ header :: rows, Fits (widths (header :: rows)) row := fun row hrow =>
    fits_widths hrow ((hlength row hrow).trans hwidths.symm)
  have hrow : ∀ row ∈ header :: rows, row ≠ [] := by
    rintro row hmem rfl
    exact hne (List.length_eq_zero_iff.mp (hlength [] hmem).symm)
  have hmeasure : measure (((align (header :: rows)).toList.splitOn '\n').headD []) =
      widths (header :: rows) := by
    rw [hlines]
    exact (hfits header List.mem_cons_self).measure_line hne hbar
  refine ⟨?_, fun j width h => ?_, ?_⟩
  · rw [hlines]
    refine List.forall_mem_map.mpr fun row hmem => List.forall_mem_map.mpr fun other hother => ?_
    have hlength := (hfits row hmem).length_line (hrow row hmem)
    rw [← (hfits other hother).length_line (hrow other hother)] at hlength
    exact Nat.add_right_cancel hlength
  · rw [hmeasure] at h
    have hset : {n | ∃ row ∈ (header :: rows).map (List.map String.toList), ∃ text,
          row[j]? = some text ∧ text.length = n} =
        {n | ∃ row ∈ header :: rows, ∃ text, row[j]? = some text ∧ text.length = n} := by
      ext n
      simp [String.length_toList]
    exact hset ▸ isGreatest_widths h
  · rw [hmeasure, hlines, List.map_map, List.map_map]
    exact List.map_congr_left fun row hmem =>
      (hfits row hmem).texts?_line (hrow row hmem) (hset row hmem)

end Predictive.Columns
