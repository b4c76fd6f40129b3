import Mathlib.Data.List.Pairwise
import Predictive.CharSet.Edges
import Predictive.Proofs.Text.CaseFold

/-!
# Edges in ascending order

The operations on edges keep them in ascending order, which `within_combine` asks for. The edges of
runs in ascending order describe the code points of these runs (`within_ofRuns`): each run is a few
stretches of code points, and edges of stretches that meet cancel out (`within_joined`).
-/

namespace Predictive

namespace CharSet

variable {op : Bool → Bool → Bool} {a b : Bool} {xs ys edges : List ℕ} {edge code : ℕ}

/-! ### Operations -/

theorem mem_turn {before behind : Bool} {rest : List ℕ} {e : ℕ}
    (h : e ∈ turn edge before behind rest) : e = edge ∨ e ∈ rest := by
  unfold turn at h
  split at h
  · exact .inr h
  · exact List.mem_cons.mp h

theorem pairwise_turn {before behind : Bool} {rest : List ℕ} (hrest : rest.Pairwise (· < ·))
    (hedge : ∀ e ∈ rest, edge < e) : (turn edge before behind rest).Pairwise (· < ·) := by
  unfold turn
  split
  · exact hrest
  · exact .cons hedge hrest

theorem mem_combine {e : ℕ} (h : e ∈ combine op a b xs ys) : e ∈ xs ∨ e ∈ ys := by
  fun_induction combine op a b xs ys with
  | case1 => cases h
  | case2 a b x xs ih =>
      rcases mem_turn h with rfl | h
      · exact .inl List.mem_cons_self
      · exact (ih h).imp_left (List.mem_cons_of_mem _)
  | case3 a b y ys ih =>
      rcases mem_turn h with rfl | h
      · exact .inr List.mem_cons_self
      · exact (ih h).imp_right (List.mem_cons_of_mem _)
  | case4 a b x xs y ys hxy ih =>
      rcases mem_turn h with rfl | h
      · exact .inl List.mem_cons_self
      · exact (ih h).imp_left (List.mem_cons_of_mem _)
  | case5 a b x xs y ys _ hyx ih =>
      rcases mem_turn h with rfl | h
      · exact .inr List.mem_cons_self
      · exact (ih h).imp_right (List.mem_cons_of_mem _)
  | case6 a b x xs y ys hxy hyx ih =>
      rcases mem_turn h with rfl | h
      · exact .inl List.mem_cons_self
      · exact (ih h).imp (List.mem_cons_of_mem _) (List.mem_cons_of_mem _)

theorem pairwise_combine (hx : xs.Pairwise (· < ·)) (hy : ys.Pairwise (· < ·)) :
    (combine op a b xs ys).Pairwise (· < ·) := by
  fun_induction combine op a b xs ys with
  | case1 => exact .nil
  | case2 a b x xs ih =>
      have hxs := List.pairwise_cons.mp hx
      refine pairwise_turn (ih hxs.2 hy) fun e he => ?_
      rcases mem_combine he with he | he
      · exact hxs.1 e he
      · cases he
  | case3 a b y ys ih =>
      have hys := List.pairwise_cons.mp hy
      refine pairwise_turn (ih hx hys.2) fun e he => ?_
      rcases mem_combine he with he | he
      · cases he
      · exact hys.1 e he
  | case4 a b x xs y ys hxy ih =>
      have hxs := List.pairwise_cons.mp hx
      have hys := List.pairwise_cons.mp hy
      refine pairwise_turn (ih hxs.2 hy) fun e he => ?_
      rcases mem_combine he with he | he
      · exact hxs.1 e he
      · rcases List.mem_cons.mp he with rfl | he
        · exact hxy
        · exact hxy.trans (hys.1 e he)
  | case5 a b x xs y ys _ hyx ih =>
      have hxs := List.pairwise_cons.mp hx
      have hys := List.pairwise_cons.mp hy
      refine pairwise_turn (ih hx hys.2) fun e he => ?_
      rcases mem_combine he with he | he
      · rcases List.mem_cons.mp he with rfl | he
        · exact hyx
        · exact hyx.trans (hxs.1 e he)
      · exact hys.1 e he
  | case6 a b x xs y ys hxy hyx ih =>
      obtain rfl : x = y := by omega
      have hxs := List.pairwise_cons.mp hx
      have hys := List.pairwise_cons.mp hy
      refine pairwise_turn (ih hxs.2 hys.2) fun e he => ?_
      rcases mem_combine he with he | he
      · exact hxs.1 e he
      · exact hys.1 e he

theorem pairwise_outside (h : edges.Pairwise (· < ·)) : (outside edges).Pairwise (· < ·) := by
  unfold outside
  split
  · exact (List.pairwise_cons.mp h).2
  · next hzero =>
      refine .cons (fun e he => Nat.pos_of_ne_zero ?_) h
      rintro rfl
      cases edges with
      | nil => cases he
      | cons x xs =>
          rcases List.mem_cons.mp he with rfl | he
          · exact hzero xs rfl
          · exact absurd ((List.pairwise_cons.mp h).1 0 he) (Nat.not_lt_zero x)

/-! ### Stretches that meet -/

/-- An edge cancels out with the one behind it, or it stays. -/
theorem joined_cons (edge : ℕ) (edges : List ℕ) :
    (∃ rest, joined edges = edge :: rest ∧ joined (edge :: edges) = rest) ∨
      (joined edges).head? ≠ some edge ∧ joined (edge :: edges) = edge :: joined edges := by
  have hcons : joined (edge :: edges) =
      if (joined edges).head? = some edge then (joined edges).tail else edge :: joined edges := rfl
  rw [hcons]
  split
  · next hhead =>
      obtain ⟨rest, hrest⟩ := List.head?_eq_some_iff.mp hhead
      exact .inl ⟨rest, hrest, by rw [hrest, List.tail_cons]⟩
  · next hhead => exact .inr ⟨hhead, rfl⟩

theorem subset_joined (edges : List ℕ) : joined edges ⊆ edges := by
  induction edges with
  | nil => exact List.Subset.refl _
  | cons edge edges ih =>
      rcases joined_cons edge edges with ⟨rest, hrest, heq⟩ | ⟨-, heq⟩
      · rw [heq]
        exact fun e he => List.mem_cons_of_mem _ (ih (hrest ▸ List.mem_cons_of_mem _ he))
      · rw [heq]
        exact List.cons_subset_cons edge ih

theorem pairwise_joined (h : edges.Pairwise (· ≤ ·)) : (joined edges).Pairwise (· < ·) := by
  induction edges with
  | nil => exact .nil
  | cons edge edges ih =>
      obtain ⟨hedge, hedges⟩ := List.pairwise_cons.mp h
      have hjoined := ih hedges
      rcases joined_cons edge edges with ⟨rest, hrest, heq⟩ | ⟨hhead, heq⟩
      · rw [hrest] at hjoined
        rw [heq]
        exact hjoined.tail
      · rw [heq]
        refine .cons (fun e he => ?_) hjoined
        cases hcons : joined edges with
        | nil => simp [hcons] at he
        | cons x rest =>
            have hx : edge ≤ x := hedge x (subset_joined edges (hcons ▸ List.mem_cons_self))
            have hne : x ≠ edge := by simpa [hcons] using hhead
            have hlt : edge < x := by omega
            rw [hcons] at he hjoined
            rcases List.mem_cons.mp he with rfl | he
            · exact hlt
            · exact hlt.trans ((List.pairwise_cons.mp hjoined).1 e he)

theorem within_joined (h : edges.Pairwise (· ≤ ·)) (before : Bool) (code : ℕ) :
    within before (joined edges) code = within before edges code := by
  induction edges generalizing before with
  | nil => rfl
  | cons edge edges ih =>
      obtain ⟨-, hedges⟩ := List.pairwise_cons.mp h
      rw [within.eq_2, ← ih hedges]
      rcases joined_cons edge edges with ⟨rest, hrest, heq⟩ | ⟨-, heq⟩
      · have hjoined := pairwise_joined hedges
        rw [hrest] at hjoined ⊢
        rw [heq, within.eq_2, Bool.not_not]
        split
        · next hlt =>
            exact within_of_lt fun e he => hlt.trans ((List.pairwise_cons.mp hjoined).1 e he)
        · rfl
      · rw [heq, within.eq_2]

/-- The edges of stretches in ascending order, each from a code point up to below another. -/
theorem within_flatMap {stretches : List (ℕ × ℕ)}
    (h : (stretches.flatMap fun s => [s.1, s.2]).Pairwise (· ≤ ·)) (code : ℕ) :
    within false (stretches.flatMap fun s => [s.1, s.2]) code =
      stretches.any fun s => decide (s.1 ≤ code ∧ code < s.2) := by
  induction stretches with
  | nil => rfl
  | cons s stretches ih =>
      simp only [List.flatMap_cons, List.cons_append, List.nil_append, List.pairwise_cons,
        List.forall_mem_cons] at h
      obtain ⟨⟨hle, hfirst⟩, hlast, hrest⟩ := h
      rw [List.flatMap_cons, List.cons_append, List.cons_append, List.nil_append, within, within,
        List.any_cons, ← ih hrest]
      split
      · next hlt =>
          rw [within_of_lt fun e he => hlt.trans_le (hfirst e he), decide_eq_false (by omega)]
          rfl
      · split
        · rw [decide_eq_true (by omega)]
          rfl
        · rw [decide_eq_false (by omega)]
          rfl

/-! ### Single code points -/

theorem pairwise_flatMap_succ {codes : List ℕ} (h : codes.Pairwise (· < ·)) :
    (codes.flatMap fun code => [code, code + 1]).Pairwise (· ≤ ·) := by
  refine List.pairwise_flatMap.mpr ⟨fun code _ => by simp, h.imp fun hlt x hx y hy => ?_⟩
  simp only [List.mem_cons, List.not_mem_nil, or_false] at hx hy
  omega

theorem any_map_succ {codes : List ℕ} :
    ((codes.map fun code => (code, code + 1)).any fun s =>
        decide (s.1 ≤ code ∧ code < s.2)) = true ↔
      code ∈ codes := by
  rw [List.any_map, List.any_eq_true]
  simp only [Function.comp, decide_eq_true_eq]
  constructor
  · rintro ⟨x, hx, hle, hlt⟩
    obtain rfl : x = code := by omega
    exact hx
  · intro hcode
    exact ⟨code, hcode, Nat.le_refl _, Nat.lt_succ_self _⟩

theorem within_codes {codes : List ℕ} (h : codes.Pairwise (· < ·)) :
    within false (joined (codes.flatMap fun code => [code, code + 1])) code = true ↔
      code ∈ codes := by
  have hpairwise := pairwise_flatMap_succ h
  rw [within_joined hpairwise]
  have hmap : (codes.flatMap fun code => [code, code + 1]) =
      (codes.map fun code => (code, code + 1)).flatMap fun s => [s.1, s.2] := by
    rw [List.flatMap_map]
  rw [hmap] at hpairwise ⊢
  rw [within_flatMap hpairwise, any_map_succ]

/-- Erasing repetitions leaves a list in ascending order without any. -/
theorem exists_eraseReps_loop {codes : List ℕ} {first : ℕ} (done : List ℕ)
    (h : (first :: codes).Pairwise (· ≤ ·)) :
    ∃ reps, List.eraseRepsBy.loop (· == ·) first codes done = done.reverse ++ reps ∧
      reps.Pairwise (· < ·) ∧ ∀ code, code ∈ reps ↔ code ∈ first :: codes := by
  induction codes generalizing first done with
  | nil =>
      refine ⟨[first], ?_, List.pairwise_singleton _ _, fun _ => Iff.rfl⟩
      rw [List.eraseRepsBy.loop, List.reverse_cons]
  | cons x codes ih =>
      obtain ⟨hfirst, hcodes⟩ := List.pairwise_cons.mp h
      have hx : first ≤ x := hfirst x List.mem_cons_self
      rw [List.eraseRepsBy.loop]
      by_cases heq : first = x
      · subst heq
        obtain ⟨reps, hreps, hpairwise, hmem⟩ := ih done hcodes
        refine ⟨reps, by simpa using hreps, hpairwise, fun code => ?_⟩
        simp only [hmem, List.mem_cons, or_self_left]
      · obtain ⟨reps, hreps, hpairwise, hmem⟩ := ih (first :: done) hcodes
        refine ⟨first :: reps, ?_, .cons (fun e he => ?_) hpairwise, ?_⟩
        · rw [beq_eq_false_iff_ne.mpr heq]
          simpa using hreps
        · have hle : x ≤ e := by
            rcases List.mem_cons.mp ((hmem e).mp he) with rfl | he
            · exact Nat.le_refl _
            · exact (List.pairwise_cons.mp hcodes).1 e he
          omega
        · intro code
          rw [List.mem_cons, List.mem_cons, hmem]

theorem eraseReps_spec {codes : List ℕ} (h : codes.Pairwise (· ≤ ·)) :
    codes.eraseReps.Pairwise (· < ·) ∧ ∀ code, code ∈ codes.eraseReps ↔ code ∈ codes := by
  cases codes with
  | nil => exact ⟨.nil, fun _ => Iff.rfl⟩
  | cons first codes =>
      obtain ⟨reps, hreps, hpairwise, hmem⟩ := exists_eraseReps_loop [] h
      have heq : (first :: codes).eraseReps = reps := hreps
      rw [heq]
      exact ⟨hpairwise, hmem⟩

end CharSet

/-! ### Runs -/

namespace Text.CodeRun

variable {code : ℕ} {r : CodeRun}

theorem mem_codes_iff (h : r.first ≤ r.last) : code ∈ r.codes ↔ r.has code = true := by
  rw [has_iff]
  simp only [codes, List.mem_map, List.mem_range, Nat.lt_succ_iff]
  constructor
  · rintro ⟨n, hn, rfl⟩
    have hle : n * r.step ≤ r.last - r.first :=
      (Nat.mul_le_mul_right _ hn).trans (Nat.div_mul_le_self _ _)
    refine ⟨by omega, by omega, ?_⟩
    rw [Nat.add_sub_cancel_left]
    exact Nat.mul_mod_left _ _
  · rintro ⟨hfirst, hlast, hstep⟩
    refine ⟨(code - r.first) / r.step, Nat.div_le_div_right (by omega), ?_⟩
    rw [Nat.div_mul_cancel (Nat.dvd_of_mod_eq_zero hstep)]
    omega

theorem pairwise_codes (r : CodeRun) : r.codes.Pairwise (· < ·) := by
  rw [codes, List.pairwise_map]
  rcases Nat.eq_zero_or_pos r.step with hzero | hpos
  · simp [hzero]
  · exact List.pairwise_lt_range.imp fun hlt =>
      Nat.add_lt_add_left (Nat.mul_lt_mul_of_pos_right hlt hpos) _

/-- The code points of a run, as few stretches as possible. -/
def stretches (r : CodeRun) : List (ℕ × ℕ) :=
  if r.step = 1 then [(r.first, r.last + 1)] else r.codes.map fun code => (code, code + 1)

theorem any_stretches (h : r.first ≤ r.last) (code : ℕ) :
    (r.stretches.any fun s => decide (s.1 ≤ code ∧ code < s.2)) = r.has code := by
  rw [Bool.eq_iff_iff, stretches]
  split
  · next hstep =>
      simp only [List.any_cons, List.any_nil, Bool.or_false, decide_eq_true_eq, has_iff, hstep,
        Nat.mod_one, and_true]
      omega
  · rw [CharSet.any_map_succ, mem_codes_iff h]

theorem edges_stretches (r : CodeRun) : (r.stretches.flatMap fun s => [s.1, s.2]) =
    if r.step = 1 then [r.first, r.last + 1] else r.codes.flatMap fun code => [code, code + 1] := by
  unfold stretches
  split
  · rfl
  · rw [List.flatMap_map]

theorem mem_edges_stretches (h : r.first ≤ r.last) {e : ℕ}
    (he : e ∈ r.stretches.flatMap fun s => [s.1, s.2]) : r.first ≤ e ∧ e ≤ r.last + 1 := by
  rw [edges_stretches] at he
  split at he
  · simp only [List.mem_cons, List.not_mem_nil, or_false] at he
    omega
  · obtain ⟨code, hcode, he⟩ := List.mem_flatMap.mp he
    rw [mem_codes_iff h, has_iff] at hcode
    simp only [List.mem_cons, List.not_mem_nil, or_false] at he
    omega

theorem pairwise_edges_stretches (h : r.first ≤ r.last) :
    (r.stretches.flatMap fun s => [s.1, s.2]).Pairwise (· ≤ ·) := by
  rw [edges_stretches]
  split
  · simpa using h.trans (Nat.le_succ _)
  · exact CharSet.pairwise_flatMap_succ r.pairwise_codes

end Text.CodeRun

namespace CharSet

open Text (CodeRun)

variable {runs : List CodeRun}

theorem ofRuns_eq (runs : List CodeRun) :
    ofRuns runs = joined ((runs.flatMap CodeRun.stretches).flatMap fun s => [s.1, s.2]) := by
  rw [List.flatMap_assoc]
  simp only [CodeRun.edges_stretches]
  rfl

theorem pairwise_edges_runs (h : CodeRun.ascending runs = true) :
    ((runs.flatMap CodeRun.stretches).flatMap fun s => [s.1, s.2]).Pairwise (· ≤ ·) := by
  have hle := CodeRun.first_le_of_ascending h
  rw [List.flatMap_assoc, List.pairwise_flatMap]
  refine ⟨fun r hr => CodeRun.pairwise_edges_stretches (hle r hr), ?_⟩
  refine (CodeRun.pairwise_of_ascending h).imp_of_mem fun {r s} hr hs hlt x hx y hy => ?_
  have hx := CodeRun.mem_edges_stretches (hle r hr) hx
  have hy := CodeRun.mem_edges_stretches (hle s hs) hy
  omega

theorem pairwise_ofRuns (h : CodeRun.ascending runs = true) : (ofRuns runs).Pairwise (· < ·) := by
  rw [ofRuns_eq]
  exact pairwise_joined (pairwise_edges_runs h)

/-- Runs in ascending order have the code points between their edges. -/
theorem within_ofRuns (h : CodeRun.ascending runs = true) (code : ℕ) :
    within false (ofRuns runs) code = runs.any fun r => r.has code := by
  rw [ofRuns_eq, within_joined (pairwise_edges_runs h), within_flatMap (pairwise_edges_runs h),
    List.any_flatMap, Bool.eq_iff_iff, List.any_eq_true, List.any_eq_true]
  refine exists_congr fun r => and_congr_right fun hr => ?_
  rw [CodeRun.any_stretches (CodeRun.first_le_of_ascending h r hr)]

end CharSet

end Predictive
