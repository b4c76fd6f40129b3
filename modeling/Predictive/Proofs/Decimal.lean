import Mathlib.Algebra.Order.Field.Power
import Mathlib.Data.Nat.Digits.Lemmas
import Mathlib.Data.Rat.Cast.Order
import Mathlib.Tactic.Linarith
import Mathlib.Tactic.Ring
import Predictive.Decimal.Shortest

/-!
# The shortest decimal of a floating-point value

A decimal is accepted for a value if it lies in the interval of the reals that round to it
(`accepts_iff`). This interval holds the value itself and everything between two of its points. So a
grid has an accepted decimal only if one of the two neighbours of the value is accepted
(`onGrid?_spec`), and `shortest` finds an accepted decimal (`accepts_shortest`) that has no more
digits than any other (`length_shortest_le`).
-/

namespace Predictive.Decimal

/-! ### Values -/

def value (d : Decimal) : ℚ := d.digits * 10 ^ d.exponent

theorem zpow_mul_pow_neg_toNat {b : ℚ} (hb : b ≠ 0) (i : ℤ) :
    b ^ i.toNat = b ^ i * b ^ (-i).toNat := by
  rw [← zpow_natCast, ← zpow_natCast, ← zpow_add₀ hb]
  congr 1
  omega

/-- The powers of ten and two are spread over both sides, so that no exponent is negative. -/
theorem exists_compareScaled (a : ℕ) (i : ℤ) (n : ℕ) (j : ℤ) : ∃ (p q : ℕ) (c : ℚ), 0 < c ∧
    compareScaled a i n j = compare p q ∧ (p : ℚ) = a * 10 ^ i * c ∧ (q : ℚ) = n * 2 ^ j * c := by
  refine ⟨_, _, 10 ^ (-i).toNat * 2 ^ (-j).toNat, by positivity, rfl, ?_, ?_⟩
  · push_cast [Nat.pow_eq, zpow_mul_pow_neg_toNat (b := 10) (by norm_num) i]
    ring
  · push_cast [Nat.pow_eq, zpow_mul_pow_neg_toNat (b := 2) (by norm_num) j]
    ring

theorem compareScaled_eq_lt_iff {a : ℕ} {i : ℤ} {n : ℕ} {j : ℤ} :
    compareScaled a i n j = .lt ↔ (a : ℚ) * 10 ^ i < n * 2 ^ j := by
  obtain ⟨p, q, c, hc, hcompare, hp, hq⟩ := exists_compareScaled a i n j
  rw [hcompare, compare_lt_iff_lt, ← Nat.cast_lt (α := ℚ), hp, hq, mul_lt_mul_iff_left₀ hc]

theorem compareScaled_eq_gt_iff {a : ℕ} {i : ℤ} {n : ℕ} {j : ℤ} :
    compareScaled a i n j = .gt ↔ (n : ℚ) * 2 ^ j < a * 10 ^ i := by
  obtain ⟨p, q, c, hc, hcompare, hp, hq⟩ := exists_compareScaled a i n j
  rw [hcompare, compare_gt_iff_gt, ← Nat.cast_lt (α := ℚ), hp, hq, mul_lt_mul_iff_left₀ hc]

theorem compareScaled_eq_eq_iff {a : ℕ} {i : ℤ} {n : ℕ} {j : ℤ} :
    compareScaled a i n j = .eq ↔ (a : ℚ) * 10 ^ i = n * 2 ^ j := by
  obtain ⟨p, q, c, hc, hcompare, hp, hq⟩ := exists_compareScaled a i n j
  rw [hcompare, compare_eq_iff_eq, ← Nat.cast_inj (R := ℚ), hp, hq, mul_left_inj' hc.ne']

/-! ### Numbers of digits -/

theorem length_le_iff {n k : ℕ} (hk : 0 < k) : length n ≤ k ↔ n < 10 ^ k :=
  Nat.length_toDigits_le_iff (by norm_num) hk

theorem length_pos (n : ℕ) : 0 < length n := Nat.length_toDigits_pos

theorem length_mono {m n : ℕ} (h : m ≤ n) : length m ≤ length n :=
  (length_le_iff (length_pos n)).mpr (h.trans_lt ((length_le_iff (length_pos n)).mp le_rfl))

/-! ### What rounds to a value -/

namespace Binary

variable {x : Binary} {u v : ℚ} {d : Decimal}

def value (x : Binary) : ℚ := x.significand * 2 ^ x.exponent

def low (x : Binary) : ℚ :=
  (4 * x.significand - if x.narrowBelow then 1 else 2) * 2 ^ (x.exponent - 2)

def high (x : Binary) : ℚ := (4 * x.significand + 2) * 2 ^ (x.exponent - 2)

/-- A real that rounds to a value. -/
def Covers (x : Binary) (v : ℚ) : Prop :=
  (x.low < v ∨ x.significand % 2 = 0 ∧ v = x.low) ∧
    (v < x.high ∨ x.significand % 2 = 0 ∧ v = x.high)

theorem value_eq (x : Binary) : x.value = 4 * x.significand * 2 ^ (x.exponent - 2) := by
  rw [value, zpow_sub₀ (by norm_num)]
  norm_num
  ring

theorem low_lt_value (x : Binary) : x.low < x.value := by
  have hpos : (0 : ℚ) < 2 ^ (x.exponent - 2) := by positivity
  rw [low, value_eq]
  refine mul_lt_mul_of_pos_right ?_ hpos
  split <;> linarith

theorem value_lt_high (x : Binary) : x.value < x.high := by
  have hpos : (0 : ℚ) < 2 ^ (x.exponent - 2) := by positivity
  rw [high, value_eq]
  exact mul_lt_mul_of_pos_right (by linarith) hpos

theorem covers_value (x : Binary) : x.Covers x.value :=
  ⟨.inl x.low_lt_value, .inl x.value_lt_high⟩

/-- What lies between the value and something that rounds to it rounds to it too. -/
theorem Covers.of_le_value (h : x.Covers u) (huv : u ≤ v) (hv : v ≤ x.value) : x.Covers v := by
  refine ⟨?_, .inl (hv.trans_lt x.value_lt_high)⟩
  rcases h.1 with hlow | ⟨heven, rfl⟩
  · exact .inl (hlow.trans_le huv)
  · exact huv.lt_or_eq.imp_right fun heq => ⟨heven, heq.symm⟩

theorem Covers.of_value_le (h : x.Covers u) (hvu : v ≤ u) (hv : x.value ≤ v) : x.Covers v := by
  refine ⟨.inl (x.low_lt_value.trans_le hv), ?_⟩
  rcases h.2 with hhigh | ⟨heven, rfl⟩
  · exact .inl (hvu.trans_lt hhigh)
  · exact hvu.lt_or_eq.imp_right fun heq => ⟨heven, heq⟩

theorem accepts_iff (hx : 0 < x.significand) : x.accepts d = true ↔ x.Covers d.value := by
  have hlow : (((if x.narrowBelow then 4 * x.significand - 1 else 4 * x.significand - 2 : ℕ) : ℚ)) *
      2 ^ (x.exponent - 2) = x.low := by
    rw [low]
    split
    · rw [Nat.cast_sub (by omega)]
      push_cast
      rfl
    · rw [Nat.cast_sub (by omega)]
      push_cast
      rfl
  have hhigh : ((4 * x.significand + 2 : ℕ) : ℚ) * 2 ^ (x.exponent - 2) = x.high := by
    rw [high]
    push_cast
    rfl
  simp only [accepts, Bool.and_eq_true, Bool.or_eq_true, decide_eq_true_eq,
    compareScaled_eq_lt_iff, compareScaled_eq_gt_iff, compareScaled_eq_eq_iff, hlow, hhigh, Covers,
    Decimal.value]

/-! ### Grids -/

theorem exists_floorAt (x : Binary) (k : ℤ) : ∃ p q : ℕ, 0 < q ∧ x.floorAt k = p / q ∧
    (p : ℚ) * 10 ^ k = x.value * q := by
  refine ⟨_, _, Nat.mul_pos (Nat.pow_pos (by norm_num)) (Nat.pow_pos (by norm_num)), rfl, ?_⟩
  have hten : (10 : ℚ) ^ k.toNat = 10 ^ k * 10 ^ (-k).toNat :=
    zpow_mul_pow_neg_toNat (by norm_num) k
  have htwo : (2 : ℚ) ^ x.exponent.toNat = 2 ^ x.exponent * 2 ^ (-x.exponent).toNat :=
    zpow_mul_pow_neg_toNat (by norm_num) x.exponent
  push_cast [Nat.pow_eq, hten, htwo, value]
  ring

theorem floorAt_le (x : Binary) (k : ℤ) : (x.floorAt k : ℚ) * 10 ^ k ≤ x.value := by
  obtain ⟨p, q, hq, hfloor, hp⟩ := x.exists_floorAt k
  have hq' : (0 : ℚ) < q := Nat.cast_pos.mpr hq
  have hle : (x.floorAt k : ℚ) * q ≤ p := by
    rw [hfloor]
    exact_mod_cast Nat.div_mul_le_self p q
  have hten : (0 : ℚ) < 10 ^ k := by positivity
  refine le_of_mul_le_mul_right ?_ hq'
  calc (x.floorAt k : ℚ) * 10 ^ k * q = x.floorAt k * q * 10 ^ k := by ring
    _ ≤ p * 10 ^ k := mul_le_mul_of_nonneg_right hle hten.le
    _ = x.value * q := hp

theorem lt_floorAt_succ (x : Binary) (k : ℤ) : x.value < (x.floorAt k + 1 : ℚ) * 10 ^ k := by
  obtain ⟨p, q, hq, hfloor, hp⟩ := x.exists_floorAt k
  have hq' : (0 : ℚ) < q := Nat.cast_pos.mpr hq
  have hlt : (p : ℚ) < q * (x.floorAt k + 1) := by
    rw [hfloor]
    exact_mod_cast Nat.lt_mul_div_succ p hq
  have hten : (0 : ℚ) < 10 ^ k := by positivity
  refine lt_of_mul_lt_mul_right ?_ hq'.le
  calc x.value * q = p * 10 ^ k := hp.symm
    _ < q * (x.floorAt k + 1) * 10 ^ k := mul_lt_mul_of_pos_right hlt hten
    _ = (x.floorAt k + 1) * 10 ^ k * q := by ring

theorem nearest_eq_or (x : Binary) (n : ℕ) (k : ℤ) : x.nearest n k = n ∨ x.nearest n k = n + 1 := by
  unfold nearest
  split
  · exact .inl rfl
  · exact .inr rfl
  · split
    · exact .inl rfl
    · exact .inr rfl

/-- On a grid where neither neighbour of the value rounds to it no decimal does. -/
theorem onGrid?_spec (hx : 0 < x.significand) (k : ℤ) :
    (∃ n : ℕ, x.onGrid? k = some ⟨n, k⟩ ∧ x.Covers (n * 10 ^ k) ∧ n ≤ x.floorAt k + 1) ∨
      x.onGrid? k = none ∧ ∀ n : ℕ, ¬x.Covers (n * 10 ^ k) := by
  have hbelow : x.accepts ⟨x.floorAt k, k⟩ = true ↔ x.Covers (x.floorAt k * 10 ^ k) :=
    accepts_iff hx
  have habove : x.accepts ⟨x.floorAt k + 1, k⟩ = true ↔
      x.Covers ((x.floorAt k + 1 : ℕ) * 10 ^ k) := accepts_iff hx
  unfold onGrid?
  dsimp only
  split
  · next h₁ h₂ =>
      rcases x.nearest_eq_or (x.floorAt k) k with heq | heq
      · rw [heq]
        exact .inl ⟨_, rfl, hbelow.mp h₁, Nat.le_succ _⟩
      · rw [heq]
        exact .inl ⟨_, rfl, habove.mp h₂, Nat.le_refl _⟩
  · next h₁ _ => exact .inl ⟨_, rfl, hbelow.mp h₁, Nat.le_succ _⟩
  · next _ h₂ => exact .inl ⟨_, rfl, habove.mp h₂, Nat.le_refl _⟩
  · next h₁ h₂ =>
      have hten : (0 : ℚ) ≤ 10 ^ k := by positivity
      refine .inr ⟨rfl, fun n hn => ?_⟩
      rcases Nat.lt_or_ge (x.floorAt k) n with hlt | hle
      · have hcovers : x.Covers ((x.floorAt k + 1 : ℕ) * 10 ^ k) := by
          refine hn.of_value_le (mul_le_mul_of_nonneg_right (Nat.cast_le.mpr hlt) hten) ?_
          exact_mod_cast (x.lt_floorAt_succ k).le
        rw [habove.mpr hcovers] at h₂
        cases h₂
      · have hcovers : x.Covers (x.floorAt k * 10 ^ k) :=
          hn.of_le_value (mul_le_mul_of_nonneg_right (Nat.cast_le.mpr hle) hten) (x.floorAt_le k)
        rw [hbelow.mpr hcovers] at h₁
        cases h₁

/-! ### The first digit -/

theorem pow_length_bounds {k : ℤ} (h : 0 < x.floorAt k) :
    (10 : ℚ) ^ ((length (x.floorAt k) : ℤ) - 1 + k) ≤ x.value ∧
      x.value < 10 ^ ((length (x.floorAt k) : ℤ) + k) := by
  have hten : (0 : ℚ) < 10 ^ k := by positivity
  have hlength := length_pos (x.floorAt k)
  have hlower : 10 ^ (length (x.floorAt k) - 1) ≤ x.floorAt k := by
    by_contra hlt
    rcases Nat.eq_zero_or_pos (length (x.floorAt k) - 1) with hone | hpos
    · rw [hone] at hlt
      omega
    · have hle := (length_le_iff hpos).mpr (Nat.not_le.mp hlt)
      omega
  have hupper : x.floorAt k + 1 ≤ 10 ^ length (x.floorAt k) := (length_le_iff hlength).mp le_rfl
  constructor
  · refine le_trans ?_ (x.floorAt_le k)
    rw [zpow_add₀ (by norm_num), ← Nat.cast_pred hlength, zpow_natCast]
    exact mul_le_mul_of_nonneg_right (by exact_mod_cast hlower) hten.le
  · refine (x.lt_floorAt_succ k).trans_le ?_
    rw [zpow_add₀ (by norm_num), zpow_natCast]
    exact mul_le_mul_of_nonneg_right (by exact_mod_cast hupper) hten.le

theorem floorAt_eq_of_value_eq {k : ℤ} {n : ℕ} (h : x.value = n * 10 ^ k) : x.floorAt k = n := by
  have hten : (0 : ℚ) < 10 ^ k := by positivity
  have hle := le_of_mul_le_mul_right (h ▸ x.floorAt_le k) hten
  have hlt := lt_of_mul_lt_mul_right (h ▸ x.lt_floorAt_succ k) hten.le
  have hle' : x.floorAt k ≤ n := by exact_mod_cast hle
  have hlt' : n < x.floorAt k + 1 := by exact_mod_cast hlt
  omega

theorem value_eq_of_nonpos (h : x.exponent ≤ 0) :
    x.value = (x.significand * 5 ^ (-x.exponent).toNat : ℕ) * 10 ^ x.exponent := by
  have hexponent : x.exponent = -((-x.exponent).toNat : ℤ) := by omega
  rw [value]
  generalize (-x.exponent).toNat = n at hexponent
  rw [hexponent, zpow_neg, zpow_neg, zpow_natCast, zpow_natCast]
  push_cast
  rw [show (10 : ℚ) = 5 * 2 by norm_num, mul_pow, mul_inv, mul_assoc,
    mul_inv_cancel_left₀ (by positivity)]

theorem floorAt_min (x : Binary) :
    (x.floorAt (min x.exponent 0) : ℚ) * 10 ^ min x.exponent 0 = x.value := by
  rcases le_total x.exponent 0 with hle | hle
  · rw [min_eq_left hle, floorAt_eq_of_value_eq (value_eq_of_nonpos hle), ← value_eq_of_nonpos hle]
  · have hvalue : x.value = (x.significand * 2 ^ x.exponent.toNat : ℕ) * 10 ^ (0 : ℤ) := by
      have hexponent : (2 : ℚ) ^ x.exponent = 2 ^ x.exponent.toNat := by
        rw [← zpow_natCast, Int.toNat_of_nonneg hle]
      rw [value, hexponent]
      push_cast
      ring
    rw [min_eq_right hle, floorAt_eq_of_value_eq hvalue, ← hvalue]

theorem scale_spec (hx : 0 < x.significand) :
    (10 : ℚ) ^ x.scale ≤ x.value ∧ x.value < 10 ^ (x.scale + 1) := by
  unfold scale
  dsimp only
  split
  · next hwhole =>
      have hbounds := pow_length_bounds hwhole
      rw [add_zero, add_zero] at hbounds
      rwa [sub_add_cancel]
  · next hwhole =>
      have hexponent : x.exponent ≤ 0 := by
        by_contra hpos
        have hmin := x.floorAt_min
        rw [min_eq_right (by omega), Nat.eq_zero_of_not_pos hwhole] at hmin
        have hvalue : 0 < x.value := by
          rw [value]
          positivity
        simp only [Nat.cast_zero, zero_mul] at hmin
        exact hvalue.ne hmin
      have hfloor := floorAt_eq_of_value_eq (value_eq_of_nonpos hexponent)
      have hpos : 0 < x.floorAt x.exponent := by
        rw [hfloor]
        positivity
      have hbounds := pow_length_bounds hpos
      rw [neg_neg, sub_neg_eq_add]
      refine ⟨hbounds.1, ?_⟩
      rw [add_right_comm, sub_add_cancel]
      exact hbounds.2

end Binary

/-! ### Digits -/

theorem strip_digits_le (digits : ℕ) (exponent : ℤ) : (strip digits exponent).digits ≤ digits := by
  fun_induction strip digits exponent with
  | case1 digits exponent h ih => exact ih.trans (Nat.div_le_self _ _)
  | case2 digits exponent h => exact Nat.le_refl _

theorem value_strip (digits : ℕ) (exponent : ℤ) :
    (strip digits exponent).value = digits * 10 ^ exponent := by
  fun_induction strip digits exponent with
  | case1 digits exponent h ih =>
      have hdigits : digits = digits / 10 * 10 := by omega
      rw [ih, zpow_add_one₀ (by norm_num)]
      nth_rewrite 2 [hdigits]
      push_cast
      ring
  | case2 digits exponent h => rfl

variable {x : Binary} {d : Decimal}

theorem shortest_of_findSome? (hx : 0 < x.significand)
    (h : ((List.range 18).findSome? fun n : ℕ => x.onGrid? (x.scale - n)) = some d) :
    shortest x = strip d.digits d.exponent := by
  simp only [shortest, hx.ne', if_false, h]

theorem accepts_shortest (hx : 0 < x.significand) : x.accepts (shortest x) = true := by
  rw [Binary.accepts_iff hx]
  cases hfound : (List.range 18).findSome? fun n : ℕ => x.onGrid? (x.scale - n) with
  | some d =>
      obtain ⟨n, -, hn⟩ := List.exists_of_findSome?_eq_some hfound
      rw [shortest_of_findSome? hx hfound, value_strip]
      rcases Binary.onGrid?_spec hx (x.scale - n) with ⟨m, hm, hcovers, -⟩ | ⟨hnone, -⟩
      · obtain rfl := Option.some.inj (hn.symm.trans hm)
        exact hcovers
      · cases hnone.symm.trans hn
  | none =>
      have hfallback : shortest x = ⟨x.floorAt (min x.exponent 0), min x.exponent 0⟩ := by
        simp only [shortest, hx.ne', if_false, hfound]
      rw [hfallback, value, Binary.floorAt_min]
      exact x.covers_value

/-- Where no decimal on the next coarser grid rounds to the value, none on a coarser one does. -/
theorem not_covers_of_coarser {k : ℤ} (h : ∀ n : ℕ, ¬x.Covers (n * 10 ^ (k + 1))) {j : ℤ}
    (hj : k < j) (n : ℕ) : ¬x.Covers (n * 10 ^ j) := by
  have hpow : (10 : ℚ) ^ j = 10 ^ (j - k - 1).toNat * 10 ^ (k + 1) := by
    rw [← zpow_natCast, ← zpow_add₀ (by norm_num)]
    congr 1
    omega
  have hcovers := h (n * 10 ^ (j - k - 1).toNat)
  rw [hpow, ← mul_assoc]
  exact_mod_cast hcovers

theorem exists_findSome? (hx : 0 < x.significand) (hbits : x.significand < 2 ^ 53) :
    ∃ d, ((List.range 18).findSome? fun n : ℕ => x.onGrid? (x.scale - n)) = some d := by
  rw [← Option.ne_none_iff_exists']
  intro hnone
  have hgrid := List.findSome?_eq_none_iff.mp hnone 17 (by simp)
  rcases Binary.onGrid?_spec hx (x.scale - (17 : ℕ)) with ⟨m, hm, -⟩ | ⟨-, hall⟩
  · cases hgrid.symm.trans hm
  · refine hall (x.floorAt (x.scale - (17 : ℕ))) ?_
    generalize hk : x.scale - ((17 : ℕ) : ℤ) = k
    refine ⟨.inl ?_, .inl ((x.floorAt_le k).trans_lt x.value_lt_high)⟩
    have hu : (0 : ℚ) < 2 ^ (x.exponent - 2) := by positivity
    have hvalue := x.value_eq
    have hlow : x.low ≤ x.value - 2 ^ (x.exponent - 2) := by
      rw [Binary.low, hvalue]
      split <;> linarith
    have hbelow := x.lt_floorAt_succ k
    have hsmall : 10 ^ k < (2 : ℚ) ^ (x.exponent - 2) := by
      have hscale : (10 : ℚ) ^ x.scale = 10 ^ k * 10 ^ 17 := by
        rw [← hk, zpow_sub₀ (by norm_num), zpow_natCast, div_mul_cancel₀ _ (by norm_num)]
      have hle : 10 ^ k * 10 ^ 17 ≤ 4 * (x.significand : ℚ) * 2 ^ (x.exponent - 2) := by
        rw [← hscale, ← hvalue]
        exact (Binary.scale_spec hx).1
      have hsignificand : (x.significand : ℚ) < 2 ^ 53 := by exact_mod_cast hbits
      have hlt : 4 * (x.significand : ℚ) * 2 ^ (x.exponent - 2) <
          4 * 2 ^ 53 * 2 ^ (x.exponent - 2) :=
        mul_lt_mul_of_pos_right (by linarith) hu
      linarith
    linarith

theorem exists_first_of_findSome? {α : Type} {f : ℕ → Option α} {limit : ℕ} {a : α}
    (h : (List.range limit).findSome? f = some a) : ∃ n, f n = some a ∧ ∀ j < n, f j = none := by
  obtain ⟨before, n, behind, hrange, hn, hbefore⟩ := List.findSome?_eq_some_iff.mp h
  refine ⟨n, hn, fun j hj => hbefore j ?_⟩
  -- A range is in order, so what comes before `n` in it is what is below `n`.
  have hn' : n ∈ List.range limit := hrange ▸ List.mem_append_right _ List.mem_cons_self
  have hmem : j ∈ before ++ n :: behind := by
    rw [← hrange, List.mem_range]
    exact hj.trans (List.mem_range.mp hn')
  have hpairwise : (before ++ n :: behind).Pairwise (· < ·) := hrange ▸ List.pairwise_lt_range
  rcases List.mem_append.mp hmem with hmem | hmem
  · exact hmem
  · rcases List.mem_cons.mp hmem with rfl | hmem
    · exact absurd hj (Nat.lt_irrefl j)
    · have hlt := (List.pairwise_cons.mp (List.pairwise_append.mp hpairwise).2.1).1 j hmem
      exact absurd hj (Nat.not_lt.mpr hlt.le)

/-- Where only the finest of `n + 1` grids has a decimal that rounds to the value, such a decimal
has at least as many digits. -/
theorem lt_length_of_coarser (hx : 0 < x.significand) {n : ℕ} (hn : 0 < n)
    (h : ∀ j, x.scale - n < j → ∀ u : ℕ, ¬x.Covers (u * 10 ^ j)) (hd : x.Covers d.value) :
    n < length d.digits := by
  have hexponent : d.exponent ≤ x.scale - n := by
    by_contra hlt
    exact h d.exponent (not_le.mp hlt) d.digits hd
  have hvalue : (10 : ℚ) ^ x.scale ≤ d.value := by
    by_contra hlt
    have hcovers := hd.of_le_value (not_le.mp hlt).le (Binary.scale_spec hx).1
    exact h x.scale (by omega) 1 (by rwa [Nat.cast_one, one_mul])
  have hdigits : 10 ^ n ≤ d.digits := by
    have hten : (0 : ℚ) < 10 ^ (x.scale - n) := by positivity
    have hle : (10 : ℚ) ^ n * 10 ^ (x.scale - n) ≤ d.digits * 10 ^ (x.scale - n) := by
      calc (10 : ℚ) ^ n * 10 ^ (x.scale - n) = 10 ^ x.scale := by
            rw [← zpow_natCast, ← zpow_add₀ (by norm_num), add_sub_cancel]
        _ ≤ d.digits * 10 ^ d.exponent := hvalue
        _ ≤ d.digits * 10 ^ (x.scale - n) := by
            gcongr
            norm_num
    exact_mod_cast le_of_mul_le_mul_right hle hten
  by_contra hlength
  exact absurd hdigits (Nat.not_le.mpr ((length_le_iff hn).mp (Nat.not_lt.mp hlength)))

theorem floorAt_lt_pow (hx : 0 < x.significand) (n : ℕ) :
    x.floorAt (x.scale - n) < 10 ^ (n + 1) := by
  have hten : (0 : ℚ) < 10 ^ (x.scale - n) := by positivity
  have hlt : (x.floorAt (x.scale - n) : ℚ) * 10 ^ (x.scale - n) <
      10 ^ (n + 1) * 10 ^ (x.scale - n) := by
    calc (x.floorAt (x.scale - n) : ℚ) * 10 ^ (x.scale - n) ≤ x.value := x.floorAt_le _
      _ < 10 ^ (x.scale + 1) := (Binary.scale_spec hx).2
      _ = 10 ^ (n + 1) * 10 ^ (x.scale - n) := by
          rw [← zpow_natCast, ← zpow_add₀ (by norm_num)]
          congr 1
          push_cast
          ring
  exact_mod_cast lt_of_mul_lt_mul_right hlt hten.le

/-- No decimal that rounds to a value of at most 53 bits has fewer digits than the shortest one. -/
theorem length_shortest_le (hx : 0 < x.significand) (hbits : x.significand < 2 ^ 53)
    (hd : x.accepts d = true) : length (shortest x).digits ≤ length d.digits := by
  obtain ⟨found, hfound⟩ := exists_findSome? hx hbits
  rw [shortest_of_findSome? hx hfound]
  obtain ⟨n, hn, hbefore⟩ := exists_first_of_findSome? hfound
  obtain ⟨m, rfl, hcovers, hm⟩ : ∃ m : ℕ, found = ⟨m, x.scale - n⟩ ∧
      x.Covers (m * 10 ^ (x.scale - n)) ∧ m ≤ x.floorAt (x.scale - n) + 1 := by
    rcases Binary.onGrid?_spec hx (x.scale - n) with ⟨m, heq, hspec⟩ | ⟨hnone, -⟩
    · exact ⟨m, Option.some.inj (hn.symm.trans heq), hspec⟩
    · cases hnone.symm.trans hn
  have hfloor := floorAt_lt_pow hx n
  have hmono := length_mono (strip_digits_le m (x.scale - n))
  rcases Nat.eq_zero_or_pos n with rfl | hpos
  · -- On the coarsest grid the digits are those of a number up to ten.
    have hone : length (strip m (x.scale - (0 : ℕ))).digits ≤ 1 := by
      rcases Nat.lt_or_ge m 10 with hlt | hge
      · exact hmono.trans ((length_le_iff one_pos).mpr hlt)
      · obtain rfl : m = 10 := by omega
        have hstrip : (strip 10 (x.scale - (0 : ℕ))).digits = 1 := by simp [strip]
        rw [hstrip]
        rfl
    exact hone.trans (length_pos d.digits)
  · have hcoarser : ∀ j, x.scale - n < j → ∀ u : ℕ, ¬x.Covers (u * 10 ^ j) := by
      have hnone := hbefore (n - 1) (by omega)
      rcases Binary.onGrid?_spec hx (x.scale - (n - 1 : ℕ)) with ⟨u, hu, -⟩ | ⟨-, hall⟩
      · cases hnone.symm.trans hu
      · have hnext : x.scale - (n - 1 : ℕ) = x.scale - n + 1 := by omega
        exact fun j hj => not_covers_of_coarser (hnext ▸ hall) hj
    have hother := lt_length_of_coarser hx hpos hcoarser ((Binary.accepts_iff hx).mp hd)
    have hlt : m < 10 ^ (n + 1) := by
      refine lt_of_le_of_ne (hm.trans hfloor) ?_
      rintro rfl
      refine hcoarser (x.scale + 1) (by omega) 1 ?_
      have heq : ((1 : ℕ) : ℚ) * 10 ^ (x.scale + 1) =
          (10 ^ (n + 1) : ℕ) * 10 ^ (x.scale - n) := by
        push_cast
        rw [one_mul, ← zpow_natCast, ← zpow_add₀ (by norm_num)]
        congr 1
        push_cast
        ring
      rwa [heq]
    have hlength := (length_le_iff (Nat.succ_pos n)).mpr hlt
    exact hmono.trans (hlength.trans hother)

theorem Binary.significand_ofBits_lt (bits : UInt64) : (ofBits bits).significand < 2 ^ 53 := by
  have hfraction : (bits &&& 0xFFFFFFFFFFFFF).toNat < 2 ^ 52 := by
    rw [UInt64.toNat_and]
    exact Nat.and_lt_two_pow _ (by decide)
  unfold ofBits
  dsimp only
  split
  · show (bits &&& 0xFFFFFFFFFFFFF).toNat < 2 ^ 53
    omega
  · show 2 ^ 52 + (bits &&& 0xFFFFFFFFFFFFF).toNat < 2 ^ 53
    omega

/-- What is written for a floating-point number reads back as it, with the fewest digits. -/
theorem shortest_ofBits {bits : UInt64} (hx : 0 < (Binary.ofBits bits).significand) :
    (Binary.ofBits bits).accepts (shortest (.ofBits bits)) = true ∧
      ∀ d, (Binary.ofBits bits).accepts d = true →
        length (shortest (.ofBits bits)).digits ≤ length d.digits :=
  ⟨accepts_shortest hx, fun _ => length_shortest_le hx (Binary.significand_ofBits_lt bits)⟩

end Predictive.Decimal
