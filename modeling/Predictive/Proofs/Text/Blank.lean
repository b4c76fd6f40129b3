import Mathlib.Data.List.TakeWhile
import Predictive.Proofs.Text

/-!
# Blanks around a text

Trimming takes away blanks at both ends and nothing else (`exists_eq_trim`), so blanks that are
added there make no difference to it, and neither do they make an arrow. A character that is not
blank stays where it is, behind the blanks in front and in front of the blanks behind.
-/

namespace Predictive

namespace Text

def Blank (cs : List Char) : Prop :=
  ∀ c ∈ cs, isBlank c = true

theorem blank_nil : Blank [] :=
  List.forall_mem_nil _

theorem Blank.append {xs ys : List Char} (hxs : Blank xs) (hys : Blank ys) : Blank (xs ++ ys) :=
  List.forall_mem_append.mpr ⟨hxs, hys⟩

theorem Blank.notMem {gap : List Char} (h : Blank gap) {c : Char} (hc : isBlank c = false) :
    c ∉ gap := by
  intro hmem
  rw [h c hmem] at hc
  cases hc

theorem blank_append_iff {xs ys : List Char} : Blank (xs ++ ys) ↔ Blank xs ∧ Blank ys :=
  List.forall_mem_append

theorem isBlank_bar : isBlank '|' = false := by
  decide

theorem all_isBlank_iff {cs : List Char} : cs.all isBlank = true ↔ Blank cs :=
  List.all_eq_true

/-! ### Trimming -/

theorem exists_eq_trim (cs : List Char) :
    ∃ before after, cs = before ++ (trim cs ++ after) ∧ Blank before ∧ Blank after := by
  refine ⟨cs.takeWhile isBlank, ((trimLeft cs).reverse.takeWhile isBlank).reverse, ?_, ?_, ?_⟩
  · have hright : trim cs ++ ((trimLeft cs).reverse.takeWhile isBlank).reverse = trimLeft cs := by
      rw [trim, trimRight, ← List.reverse_append, List.takeWhile_append_dropWhile,
        List.reverse_reverse]
    rw [hright, trimLeft, List.takeWhile_append_dropWhile]
  · exact fun c hc => List.mem_takeWhile_imp hc
  · exact fun c hc => List.mem_takeWhile_imp (List.mem_reverse.mp hc)

theorem trim_blank_append {gap : List Char} (h : Blank gap) (cs : List Char) :
    trim (gap ++ cs) = trim cs := by
  rw [trim, trimLeft, List.dropWhile_append_of_pos h, trim, trimLeft]

theorem trim_append_blank {gap : List Char} (h : Blank gap) (cs : List Char) :
    trim (cs ++ gap) = trim cs := by
  have hright : ∀ xs : List Char, trimRight (xs ++ gap) = trimRight xs := by
    intro xs
    rw [trimRight, List.reverse_append,
      List.dropWhile_append_of_pos fun c hc => h c (List.mem_reverse.mp hc), trimRight]
  rw [trim, trimLeft, List.dropWhile_append]
  split
  · next hblank =>
      have hgap : gap.dropWhile isBlank = [] := List.dropWhile_eq_nil_iff.mpr h
      rw [hgap, trim, trimLeft, List.isEmpty_iff.mp hblank]
  · rw [hright, trim, trimLeft]

theorem trim_trim (cs : List Char) : trim (trim cs) = trim cs := by
  obtain ⟨before, after, hcs, hbefore, hafter⟩ := exists_eq_trim cs
  conv_rhs => rw [hcs, trim_blank_append hbefore, trim_append_blank hafter]

theorem mem_trim {cs : List Char} {c : Char} (hc : isBlank c = false) (h : c ∈ cs) :
    c ∈ trim cs := by
  obtain ⟨before, after, hcs, hbefore, hafter⟩ := exists_eq_trim cs
  rw [hcs, List.mem_append, List.mem_append] at h
  rcases h with h | h | h
  · exact absurd h (hbefore.notMem hc)
  · exact h
  · exact absurd h (hafter.notMem hc)

/-! ### Arrows beside blanks -/

theorem noArrow_cons_of_ne {c : Char} (hc : c ≠ '-') {cs : List Char} :
    NoArrow (c :: cs) ↔ NoArrow cs := by
  have hhead : ¬ ['-', '>'] <+: c :: cs := by
    simp [hc.symm]
  rw [noArrow_cons]
  exact and_iff_right hhead

theorem noArrow_blank_append_iff {gap : List Char} (h : Blank gap) {cs : List Char} :
    NoArrow (gap ++ cs) ↔ NoArrow cs := by
  induction gap with
  | nil => rfl
  | cons c gap ih =>
      obtain ⟨hc, hgap⟩ := List.forall_mem_cons.mp h
      have hne : c ≠ '-' := by
        rintro rfl
        exact absurd hc (by decide)
      rw [List.cons_append, noArrow_cons_of_ne hne, ih hgap]

theorem noArrow_append_blank_iff {gap : List Char} (h : Blank gap) {cs : List Char} :
    NoArrow (cs ++ gap) ↔ NoArrow cs := by
  cases gap with
  | nil => rw [List.append_nil]
  | cons c gap =>
      obtain ⟨hc, hgap⟩ := List.forall_mem_cons.mp h
      have hne : c ≠ '-' ∧ c ≠ '>' := by
        constructor <;> rintro rfl <;> exact absurd hc (by decide)
      have hblank : NoArrow gap := by
        rw [← List.append_nil gap]
        exact (noArrow_blank_append_iff hgap).mpr noArrow_nil
      rw [noArrow_append_cons hne.1 hne.2]
      exact and_iff_left hblank

theorem exists_behind_of_notMem {gap xs before rest : List Char} {c : Char} (h : c ∉ gap)
    (heq : gap ++ xs = before ++ c :: rest) :
    ∃ more, before = gap ++ more ∧ xs = more ++ c :: rest := by
  rcases List.append_eq_append_iff.mp heq with ⟨more, rfl, hxs⟩ | ⟨more, rfl, hmore⟩
  · exact ⟨more, rfl, hxs⟩
  · cases more with
    | nil => exact ⟨[], by simp, by simpa using hmore.symm⟩
    | cons d more =>
        obtain ⟨rfl, -⟩ := List.cons.inj hmore
        exact absurd (by simp) h

theorem exists_before_of_notMem {gap xs before rest : List Char} {c : Char} (h : c ∉ gap)
    (heq : xs ++ gap = before ++ c :: rest) :
    ∃ more, rest = more ++ gap ∧ xs = before ++ c :: more := by
  rcases List.append_eq_append_iff.mp heq with ⟨more, rfl, hmore⟩ | ⟨more, rfl, hmore⟩
  · exact absurd (hmore ▸ by simp) h
  · cases more with
    | nil =>
        rw [List.nil_append] at hmore
        exact absurd (hmore ▸ List.mem_cons_self) h
    | cons d more =>
        obtain ⟨rfl, rfl⟩ := List.cons.inj hmore
        exact ⟨more, rfl, rfl⟩

/-- Trimming goes up to what is not blank, and takes blanks away behind it. -/
theorem exists_trim_eq_cons {gap : List Char} (h : Blank gap) {c : Char} (hc : isBlank c = false)
    (cs : List Char) :
    ∃ rest after, trim (gap ++ c :: cs) = c :: rest ∧ cs = rest ++ after ∧ Blank after := by
  obtain ⟨before, after, hcs, hbefore, hafter⟩ := exists_eq_trim (c :: cs)
  have hsplit : before ++ (trim (c :: cs) ++ after) = [] ++ c :: cs := hcs.symm
  obtain ⟨before', hnil, hcs⟩ := exists_behind_of_notMem (hbefore.notMem hc) hsplit
  obtain ⟨-, rfl⟩ := List.append_eq_nil_iff.mp hnil.symm
  obtain ⟨rest, hrest, htrim⟩ := exists_before_of_notMem (hafter.notMem hc) hcs
  exact ⟨rest, after, by rw [trim_blank_append h, htrim, List.nil_append], hrest, hafter⟩

end Text

end Predictive
