import Mathlib.Algebra.Order.Ring.Int
import Mathlib.Data.List.Pairwise
import Predictive.Text.CaseFold

/-!
# Variants of case

What a character folds to folds to itself, so two characters are variants of each other exactly if
they fold to the same one (`mem_caseVariants_iff`). This rests on three facts about the table: its
runs are in ascending order, none of them leads to a surrogate, and none leads into another run.
-/

namespace Predictive.Text

namespace CodeRun

def ascending : List CodeRun → Bool
  | [] => true
  | [r] => r.first ≤ r.last
  | r :: s :: rest => r.first ≤ r.last && r.last < s.first && ascending (s :: rest)

theorem first_le_of_ascending {runs : List CodeRun} (h : ascending runs = true) :
    ∀ r ∈ runs, r.first ≤ r.last := by
  fun_induction ascending runs with
  | case1 => exact List.forall_mem_nil _
  | case2 r => simpa using h
  | case3 r s rest ih =>
      simp only [Bool.and_eq_true, decide_eq_true_eq] at h
      exact List.forall_mem_cons.mpr ⟨h.1.1, ih h.2⟩

theorem pairwise_of_ascending {runs : List CodeRun} (h : ascending runs = true) :
    runs.Pairwise fun r s => r.last < s.first := by
  fun_induction ascending runs with
  | case1 => exact .nil
  | case2 r => exact List.pairwise_singleton _ _
  | case3 r s rest ih =>
      simp only [Bool.and_eq_true, decide_eq_true_eq] at h
      have hs : s.first ≤ s.last := first_le_of_ascending h.2 s List.mem_cons_self
      have hrest := List.pairwise_cons.mp (ih h.2)
      refine .cons (List.forall_mem_cons.mpr ⟨h.1.2, fun x hx => ?_⟩) (ih h.2)
      exact h.1.2.trans (hs.trans_lt (hrest.1 x hx))

theorem has_iff {r : CodeRun} {code : ℕ} :
    r.has code = true ↔ r.first ≤ code ∧ code ≤ r.last ∧ (code - r.first) % r.step = 0 := by
  simp [has, and_assoc]

end CodeRun

namespace FoldRun

def target (r : FoldRun) : CodeRun :=
  ⟨((r.run.first : ℤ) + r.distance).toNat, ((r.run.last : ℤ) + r.distance).toNat, r.run.step⟩

/-- One run ends before the other starts, or every second code point is in the other, and those
between them are in this one. -/
def avoids (a b : CodeRun) : Bool :=
  Nat.blt a.last b.first || Nat.blt b.last a.first ||
    (Nat.beq b.step 2 && !Nat.beq (a.first % 2) (b.first % 2) &&
      (Nat.beq a.step 2 || Nat.beq a.first a.last))

def valid (a : CodeRun) : Bool :=
  Nat.blt a.last 0xD800 || Nat.blt 0xDFFF a.first && Nat.blt a.last 0x110000

end FoldRun

theorem ascending_foldRuns : CodeRun.ascending (foldRuns.map FoldRun.run) = true := by
  decide +kernel

theorem foldRuns_nonneg :
    (foldRuns.all fun r => 0 < r.run.first ∧ 0 ≤ (r.run.first : ℤ) + r.distance) = true := by
  decide +kernel

theorem avoids_foldRuns : ((foldRuns.map FoldRun.target).all fun a =>
    (foldRuns.map FoldRun.run).all fun b => FoldRun.avoids a b) = true := by
  decide +kernel

theorem valid_foldRuns : (foldRuns.all fun r => FoldRun.valid r.run && FoldRun.valid r.target) =
    true := by
  decide +kernel

variable {code other : ℕ} {r : FoldRun}

theorem first_nonneg (hr : r ∈ foldRuns) :
    0 < r.run.first ∧ 0 ≤ (r.run.first : ℤ) + r.distance :=
  of_decide_eq_true (List.all_eq_true.mp foldRuns_nonneg r hr)

theorem eq_of_has {s : FoldRun} (hr : r ∈ foldRuns) (hs : s ∈ foldRuns)
    (hcode : r.run.has code = true) (hcode' : s.run.has code = true) : r = s := by
  have hpairwise := List.pairwise_map.mp (CodeRun.pairwise_of_ascending ascending_foldRuns)
  have hapart : foldRuns.Pairwise fun r s => ¬(r.run.has code = true ∧ s.run.has code = true) := by
    refine hpairwise.imp fun hlt hboth => ?_
    simp only [CodeRun.has_iff] at hboth
    omega
  have hsymm : Std.Symm fun r s : FoldRun =>
      ¬(r.run.has code = true ∧ s.run.has code = true) := ⟨fun _ _ h hboth => h hboth.symm⟩
  by_contra hne
  exact hapart.forall hr hs hne ⟨hcode, hcode'⟩

theorem foldCase_of_has (hr : r ∈ foldRuns) (h : r.run.has code = true) :
    foldCase code = ((code : ℤ) + r.distance).toNat := by
  unfold foldCase
  split
  · next s hs =>
      have hhas : s.run.has code = true := by simpa using List.find?_some hs
      rw [eq_of_has hr (List.mem_of_find?_eq_some hs) h hhas]
  · next hnone => exact absurd h (by simpa using List.find?_eq_none.mp hnone r hr)

theorem foldCase_of_not_has (h : ∀ r ∈ foldRuns, r.run.has code = false) :
    foldCase code = code := by
  have hnone : (foldRuns.find? fun r => r.run.has code) = none := by
    simpa [List.find?_eq_none] using h
  rw [foldCase, hnone]

theorem foldCase_eq_or (code : ℕ) : foldCase code = code ∨
    ∃ r ∈ foldRuns, r.run.has code = true ∧ foldCase code = ((code : ℤ) + r.distance).toNat := by
  by_cases h : ∀ r ∈ foldRuns, r.run.has code = false
  · exact .inl (foldCase_of_not_has h)
  · push Not at h
    obtain ⟨r, hr, hcode⟩ := h
    rw [Bool.ne_false_iff] at hcode
    exact .inr ⟨r, hr, hcode, foldCase_of_has hr hcode⟩

theorem has_target (hr : r ∈ foldRuns) (h : r.run.has code = true) :
    r.target.has ((code : ℤ) + r.distance).toNat = true := by
  have hfirst := (first_nonneg hr).2
  rw [CodeRun.has_iff] at h ⊢
  obtain ⟨hle, hle', hstep⟩ := h
  have hdiff : ((code : ℤ) + r.distance).toNat - ((r.run.first : ℤ) + r.distance).toNat =
      code - r.run.first := by omega
  refine ⟨?_, ?_, ?_⟩
  · unfold FoldRun.target
    dsimp only
    omega
  · unfold FoldRun.target
    dsimp only
    omega
  · exact hdiff.symm ▸ hstep

theorem not_has_of_avoids {a b : CodeRun} (h : FoldRun.avoids a b = true)
    (ha : a.has code = true) : b.has code = false := by
  simp only [FoldRun.avoids, Bool.or_eq_true, Bool.and_eq_true, Bool.not_eq_true', Nat.blt_eq,
    Nat.beq_eq, ← Bool.not_eq_true] at h
  rw [← Bool.not_eq_true]
  intro hb
  rw [CodeRun.has_iff] at ha hb
  rcases h with (h | h) | ⟨⟨hstep, hparity⟩, hstep' | hsingle⟩
  · omega
  · omega
  · rw [hstep] at hb
    rw [hstep'] at ha
    omega
  · rw [hstep] at hb
    omega

theorem foldCase_foldCase (code : ℕ) : foldCase (foldCase code) = foldCase code := by
  rcases foldCase_eq_or code with heq | ⟨r, hr, hcode, heq⟩
  · rw [heq, heq]
  · rw [heq]
    refine foldCase_of_not_has fun s hs => not_has_of_avoids ?_ (has_target hr hcode)
    have hall := List.all_eq_true.mp avoids_foldRuns r.target (List.mem_map_of_mem hr)
    exact List.all_eq_true.mp hall s.run (List.mem_map_of_mem hs)

theorem mem_unfoldCase_iff (h : foldCase other = other) :
    code ∈ unfoldCase other ↔ foldCase code = other := by
  simp only [unfoldCase, List.mem_cons, List.mem_filterMap, Option.ite_none_right_eq_some,
    Option.some.injEq]
  constructor
  · rintro (rfl | ⟨r, hr, hhas, rfl⟩)
    · exact h
    · have hfirst := first_nonneg hr
      rw [foldCase_of_has hr hhas]
      rw [CodeRun.has_iff] at hhas
      omega
  · intro hcode
    rcases foldCase_eq_or code with heq | ⟨r, hr, hhas, heq⟩
    · exact .inl (heq.symm.trans hcode)
    · have hfirst := first_nonneg hr
      have hle := (CodeRun.has_iff.mp hhas).1
      have hback : ((other : ℤ) - r.distance).toNat = code := by omega
      exact .inr ⟨r, hr, by rw [hback, hhas], hback⟩

theorem isValidChar_of_has {a : CodeRun} (h : FoldRun.valid a = true) (hcode : a.has code = true) :
    code.isValidChar := by
  simp only [FoldRun.valid, Bool.or_eq_true, Bool.and_eq_true, Nat.blt_eq] at h
  rw [CodeRun.has_iff] at hcode
  simp only [Nat.isValidChar]
  omega

/-- Nothing folds to or from a surrogate. -/
theorem isValidChar_foldCase_iff : (foldCase code).isValidChar ↔ code.isValidChar := by
  rcases foldCase_eq_or code with heq | ⟨r, hr, hcode, heq⟩
  · rw [heq]
  · have hvalid := List.all_eq_true.mp valid_foldRuns r hr
    rw [Bool.and_eq_true] at hvalid
    rw [heq]
    exact iff_of_true (isValidChar_of_has hvalid.2 (has_target hr hcode))
      (isValidChar_of_has hvalid.1 hcode)

/-- What folds like a character is a character. -/
theorem toNat_ofNat_of_foldCase_eq {c : Char} {code : ℕ} (h : foldCase code = foldCase c.toNat) :
    (Char.ofNat code).toNat = code := by
  have hvalid : code.isValidChar := by
    rw [← isValidChar_foldCase_iff, h, isValidChar_foldCase_iff]
    exact c.valid
  rw [Char.ofNat, dif_pos hvalid]
  rfl

theorem exists_foldCase_eq_iff {c : Char} {p : ℕ → Prop} :
    (∃ code, p code ∧ foldCase code = foldCase c.toNat) ↔
      ∃ d : Char, foldCase d.toNat = foldCase c.toNat ∧ p d.toNat := by
  constructor
  · rintro ⟨code, hp, hfold⟩
    have htoNat := toNat_ofNat_of_foldCase_eq hfold
    exact ⟨Char.ofNat code, by rwa [htoNat], by rwa [htoNat]⟩
  · rintro ⟨d, hfold, hp⟩
    exact ⟨d.toNat, hp, hfold⟩

theorem mem_caseVariants_iff {c d : Char} :
    d ∈ caseVariants c ↔ foldCase d.toNat = foldCase c.toNat := by
  rw [caseVariants, List.mem_map]
  simp only [mem_unfoldCase_iff (foldCase_foldCase c.toNat)]
  constructor
  · rintro ⟨code, hcode, rfl⟩
    rwa [toNat_ofNat_of_foldCase_eq hcode]
  · intro h
    exact ⟨d.toNat, h, Char.ofNat_toNat d⟩

end Predictive.Text
