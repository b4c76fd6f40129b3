import Predictive.Pattern.Meaning
import Predictive.Proofs.CharSet.Edges

/-!
# Sets of characters as plain runs

A set that is put together in any way has the same characters as the plain list of runs between its
edges (`has_flat`), as long as its listed runs are in ascending order. So a pattern for which case
does not count describes the variants of what is written (`Flags.has_folded`).
-/

namespace Predictive

namespace CharSet

open Text (CodeRun Category)

def Ascending : CharSet → Prop
  | listed runs => CodeRun.ascending runs = true
  | union a b | meet a b => Ascending a ∧ Ascending b
  | complement a | anyCase a => Ascending a
  | range _ _ | category _ | blank | none => True

/-! ### Categories -/

theorem ascending_categories : (Category.listed.all fun k => CodeRun.ascending k.runs) = true := by
  decide +kernel

theorem ascending_runs (k : Category) : CodeRun.ascending k.runs = true := by
  by_cases h : k = .unassigned
  · subst h
    rfl
  · have hmem : k ∈ Category.listed := by
      cases k <;> first | exact absurd rfl h | decide
    exact List.all_eq_true.mp ascending_categories k hmem

theorem within_foldl_ofRuns (ks : List Category) {edges : List ℕ}
    (h : edges.Pairwise (· < ·)) :
    (ks.foldl (fun edges k => combine or false false edges (ofRuns k.runs)) edges).Pairwise
        (· < ·) ∧
      ∀ code, within false
          (ks.foldl (fun edges k => combine or false false edges (ofRuns k.runs)) edges) code =
        (within false edges code || ks.any fun k => k.lists code) := by
  induction ks generalizing edges with
  | nil => exact ⟨h, fun code => (Bool.or_false _).symm⟩
  | cons k ks ih =>
      have hk := pairwise_ofRuns (ascending_runs k)
      have hnext : (combine or false false edges (ofRuns k.runs)).Pairwise (· < ·) :=
        pairwise_combine h hk
      obtain ⟨hpairwise, hwithin⟩ := ih hnext
      refine ⟨hpairwise, fun code => ?_⟩
      rw [List.foldl_cons, hwithin, List.any_cons, ← Bool.or_assoc]
      congr 1
      have hcombine := within_combine or (a := false) (b := false) h hk code
      rw [within_ofRuns (ascending_runs k)] at hcombine
      exact hcombine

theorem pairwise_ofCategory (k : Category) : (ofCategory k).Pairwise (· < ·) := by
  unfold ofCategory
  split
  · exact pairwise_outside (within_foldl_ofRuns _ .nil).1
  · exact pairwise_ofRuns (ascending_runs k)

theorem within_ofCategory (k : Category) (code : ℕ) :
    within false (ofCategory k) code = k.has code := by
  unfold ofCategory Category.has
  split
  · rw [within_outside, (within_foldl_ofRuns _ .nil).2]
    rfl
  · exact within_ofRuns (ascending_runs k) code

/-! ### Blanks -/

theorem ascending_blank :
    CodeRun.ascending (Text.blankRanges.map fun r => ⟨r.1, r.2, 1⟩) = true := by
  decide

theorem within_blank (c : Char) :
    within false (ofRuns (Text.blankRanges.map fun r => ⟨r.1, r.2, 1⟩)) c.toNat =
      Text.isBlank c := by
  rw [within_ofRuns ascending_blank, List.any_map, Text.isBlank]
  congr 1
  funext r
  simp [CodeRun.has, Nat.mod_one]

/-! ### Other cases -/

theorem mem_folding {code other : ℕ} (hne : other ≠ code)
    (h : Text.foldCase other = Text.foldCase code) :
    other ∈ Text.foldRuns.flatMap fun r =>
      r.run.codes.flatMap fun code => [code, ((code : ℤ) + r.distance).toNat] := by
  have hcodes : ∀ {r : Text.FoldRun} {code : ℕ}, r ∈ Text.foldRuns → r.run.has code = true →
      code ∈ r.run.codes := by
    intro r code hr hhas
    refine (CodeRun.mem_codes_iff ?_).mpr hhas
    exact CodeRun.first_le_of_ascending Text.ascending_foldRuns _ (List.mem_map_of_mem hr)
  simp only [List.mem_flatMap]
  rcases Text.foldCase_eq_or other with hother | ⟨r, hr, hhas, -⟩
  · rcases Text.foldCase_eq_or code with hcode | ⟨r, hr, hhas, hcode⟩
    · exact absurd (hother.symm.trans (h.trans hcode)) hne
    · refine ⟨r, hr, code, hcodes hr hhas, ?_⟩
      rw [← hother, h, hcode]
      exact List.mem_cons_of_mem _ List.mem_cons_self
  · exact ⟨r, hr, other, hcodes hr hhas, List.mem_cons_self⟩

theorem pairwise_mergeSort_le (codes : List ℕ) : codes.mergeSort.Pairwise (· ≤ ·) := by
  refine (List.pairwise_mergeSort ?_ ?_ codes).imp of_decide_eq_true
  · simpa using fun _ _ _ => Nat.le_trans
  · simpa using Nat.le_total

theorem pairwise_otherCases (edges : List ℕ) : (otherCases edges).Pairwise (· < ·) := by
  unfold otherCases
  exact pairwise_joined (pairwise_flatMap_succ (eraseReps_spec (pairwise_mergeSort_le _)).1)

/-- A set together with the edges of other cases has what folds like something in the set. -/
theorem within_or_within_otherCases {edges : List ℕ} {code : ℕ} :
    (within false edges code || within false (otherCases edges) code) = true ↔
      ∃ other, within false edges other = true ∧ Text.foldCase other = Text.foldCase code := by
  have hunfold : ∀ other, code ∈ Text.unfoldCase (Text.foldCase other) ↔
      Text.foldCase code = Text.foldCase other := fun other =>
    Text.mem_unfoldCase_iff (Text.foldCase_foldCase other)
  rw [Bool.or_eq_true, otherCases, within_codes (eraseReps_spec (pairwise_mergeSort_le _)).1,
    (eraseReps_spec (pairwise_mergeSort_le _)).2, List.mem_mergeSort, List.mem_flatMap]
  simp only [List.mem_filter, hunfold]
  constructor
  · rintro (hcode | ⟨other, ⟨-, hother⟩, hfold⟩)
    · exact ⟨code, hcode, rfl⟩
    · exact ⟨other, hother, hfold.symm⟩
  · rintro ⟨other, hother, hfold⟩
    by_cases hne : other = code
    · exact .inl (hne ▸ hother)
    · exact .inr ⟨other, ⟨mem_folding hne hfold, hother⟩, hfold.symm⟩

/-! ### All sets -/

theorem pairwise_edges {set : CharSet} (h : set.Ascending) : set.edges.Pairwise (· < ·) := by
  induction set with
  | range first last =>
      rw [edges]
      split
      · next hle => simpa using Nat.lt_succ_of_le hle
      · exact .nil
  | category k => exact pairwise_ofCategory k
  | listed runs => exact pairwise_ofRuns h
  | blank => exact pairwise_ofRuns ascending_blank
  | none => exact .nil
  | union a b iha ihb => exact pairwise_combine (iha h.1) (ihb h.2)
  | meet a b iha ihb => exact pairwise_combine (iha h.1) (ihb h.2)
  | complement a ih => exact pairwise_outside (ih h)
  | anyCase a ih => exact pairwise_combine (ih h) (pairwise_otherCases _)

theorem within_edges_range (first last c : Char) :
    within false (range first last).edges c.toNat = (range first last).has c := by
  rw [edges, has]
  split
  · next hle =>
      have htoNat : first.toNat ≤ last.toNat := hle
      simp only [within, Bool.not_false, Bool.not_true]
      split
      · next hlt => simp [Nat.not_le.mpr hlt]
      · next hnot =>
          have hfirst : first.toNat ≤ c.toNat := Nat.not_lt.mp hnot
          simp [hfirst, Nat.lt_succ_iff]
  · next hle =>
      have htoNat : ¬first.toNat ≤ last.toNat := hle
      symm
      rw [within, Bool.and_eq_false_iff]
      simp only [decide_eq_false_iff_not]
      omega

theorem within_edges {set : CharSet} (h : set.Ascending) (c : Char) :
    within false set.edges c.toNat = set.has c := by
  induction set generalizing c with
  | range first last => exact within_edges_range first last c
  | category k => exact within_ofCategory k c.toNat
  | listed runs => exact within_ofRuns h c.toNat
  | blank => exact within_blank c
  | none => rfl
  | union a b iha ihb =>
      have hcombine := within_combine or (a := false) (b := false) (pairwise_edges h.1)
        (pairwise_edges h.2) c.toNat
      rw [iha h.1 c, ihb h.2 c] at hcombine
      exact hcombine
  | meet a b iha ihb =>
      have hcombine := within_combine and (a := false) (b := false) (pairwise_edges h.1)
        (pairwise_edges h.2) c.toNat
      rw [iha h.1 c, ihb h.2 c] at hcombine
      exact hcombine
  | complement a ih =>
      rw [edges, within_outside, ih h c]
      rfl
  | anyCase a ih =>
      have hedges : a.edges.Pairwise (· < ·) := pairwise_edges h
      have hcombine := within_combine or (a := false) (b := false) hedges
        (pairwise_otherCases a.edges) c.toNat
      refine hcombine.trans (Bool.eq_iff_iff.mpr ?_)
      rw [within_or_within_otherCases, has, List.any_eq_true, Text.exists_foldCase_eq_iff]
      simp only [Text.mem_caseVariants_iff, ih h]

theorem any_has_stretches {edges : List ℕ} (h : edges.Pairwise (· < ·)) {code : ℕ}
    (hcode : code ≤ 0x10FFFF) :
    ((stretches edges).any fun r => r.has code) = within false edges code := by
  fun_induction stretches edges with
  | case1 => rfl
  | case2 first =>
      simp only [List.any_cons, List.any_nil, Bool.or_false, CodeRun.has, within, hcode,
        Nat.mod_one]
      split <;> simp_all
  | case3 first behind rest ih =>
      obtain ⟨hfirst, hrest⟩ := List.pairwise_cons.mp h
      have hlt : first < behind := hfirst behind List.mem_cons_self
      rw [List.any_cons, ih (List.pairwise_cons.mp hrest).2, within, within, Bool.not_false,
        Bool.not_true]
      split
      · next hbelow =>
          have hnone : within false rest code = false := within_of_lt fun e he =>
            hbelow.trans (hfirst e (List.mem_cons_of_mem _ he))
          simp [CodeRun.has, hnone, Nat.not_le.mpr hbelow]
      · next habove =>
          simp only [CodeRun.has, Nat.not_lt.mp habove, Nat.mod_one]
          split
          · next hbehind => simp [Nat.le_sub_one_of_lt hbehind]
          · next hbehind =>
              have hnot : ¬code ≤ behind - 1 := by omega
              simp [hnot]

/-- The plain runs have the same characters. -/
theorem has_flat {set : CharSet} (h : set.Ascending) (c : Char) : set.flat.has c = set.has c := by
  have hcode : c.toNat ≤ 0x10FFFF := by
    have hvalid : c.toNat.isValidChar := c.valid
    simp only [Nat.isValidChar] at hvalid
    omega
  rw [← within_edges h, ← any_has_stretches (pairwise_edges h) hcode]
  rfl

theorem has_ofList {chars : List Char} {c : Char} : (ofList chars).has c = true ↔ c ∈ chars := by
  simp [ofList, has_unions, has_single]

end CharSet

namespace Pattern.Flags

variable {flags : Flags} {set : CharSet} {c : Char}

/-- Where case does not count, a set has what folds like something in it. Without what is beyond
ASCII only characters of ASCII are left of it. -/
theorem has_folded (h : set.Ascending) (hcase : flags.ignoreCase = true) :
    (flags.folded set).has c = true ↔
      (flags.unicode = true ∨ CharSet.ascii.has c = true) ∧
        ∃ d, Text.foldCase d.toNat = Text.foldCase c.toNat ∧ set.has d = true := by
  have hany : (CharSet.anyCase set).has c = true ↔
      ∃ d, Text.foldCase d.toNat = Text.foldCase c.toNat ∧ set.has d = true := by
    rw [CharSet.has, List.any_eq_true]
    simp only [Text.mem_caseVariants_iff]
  cases hunicode : flags.unicode with
  | true =>
      have hfolded : flags.folded set = (CharSet.anyCase set).flat := by
        simp [folded, hcase, hunicode]
      have hcases : (CharSet.anyCase set).Ascending := h
      rw [hfolded, CharSet.has_flat hcases, hany]
      simp
  | false =>
      have hfolded : flags.folded set = (CharSet.meet .ascii (.anyCase set)).flat := by
        simp [folded, hcase, hunicode]
      have hcases : (CharSet.meet .ascii (.anyCase set)).Ascending := ⟨trivial, h⟩
      rw [hfolded, CharSet.has_flat hcases, CharSet.has, Bool.and_eq_true, hany]
      simp

/-- The sign for any character stands for all but the ends of lines, or for all. -/
theorem has_anyChar : flags.anyChar.has c = true ↔
    flags.dotAll = true ∨ c ≠ '\n' ∧ (flags.byReturn = true → c ≠ '\r') := by
  unfold anyChar
  split
  · next hall => simp [CharSet.any, CharSet.has, hall]
  · next hall =>
      have hdot : flags.dotAll = false := by simpa using hall
      split
      · next hreturn =>
          simp [CharSet.has, hdot, hreturn, ← Bool.not_eq_true, CharSet.has_ofList]
      · next hreturn =>
          simp [CharSet.has, hdot, hreturn, ← Bool.not_eq_true, CharSet.has_single]

end Pattern.Flags

end Predictive
