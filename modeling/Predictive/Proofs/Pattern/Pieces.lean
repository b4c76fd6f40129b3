import Mathlib.Data.List.Basic
import Mathlib.Logic.Relation
import Predictive.Pattern.Basic

/-!
# What a pattern describes

`Describes text p i j` says that the piece of a text between the places `i` and `j` is as a pattern
describes, by one clause for each kind of pattern. `Pattern.ends` works on sets of places instead:
it leads from marked places to all places to which they are related in this way (`Leads`), so a
pattern occurs in a text exactly if it describes a piece of it.

A repetition without an upper bound is followed for as many steps as the text has places. That is
enough: a set of places either has all places that it leads to, or gains one with every step.
-/

namespace Predictive

namespace Marks

def Has (marks : Marks) (i : ℕ) : Prop := marks[i]? = some true

def Chain (R : ℕ → ℕ → Prop) : ℕ → ℕ → ℕ → Prop
  | 0, i, j => i = j
  | n + 1, i, j => ∃ k, R i k ∧ Chain R n k j

/-- Among the places of a text, a step leads from the marked ones to those they are related to. -/
structure Leads (size : ℕ) (R : ℕ → ℕ → Prop) (step : Marks → Marks) : Prop where
  length_eq : ∀ {marks : Marks}, marks.length = size → (step marks).length = size
  has_iff : ∀ {marks : Marks}, marks.length = size →
    ∀ j, (step marks).Has j ↔ ∃ i, marks.Has i ∧ R i j

variable {size : ℕ} {R : ℕ → ℕ → Prop} {step : Marks → Marks} {marks a b : Marks}

theorem Has.lt_length {i : ℕ} (h : marks.Has i) : i < marks.length :=
  (List.getElem?_eq_some_iff.mp h).1

theorem has_replicate {n i : ℕ} : Has (List.replicate n true) i ↔ i < n := by
  simp [Has, List.getElem?_replicate]

theorem chain_add {m n i j : ℕ} :
    Chain R (m + n) i j ↔ ∃ k, Chain R m i k ∧ Chain R n k j := by
  induction m generalizing i with
  | zero => simp [Chain]
  | succ m ih =>
      rw [Nat.succ_add]
      simp only [Chain, ih]
      constructor
      · rintro ⟨k, hik, k', hkk', hkj⟩
        exact ⟨k', ⟨k, hik, hkk'⟩, hkj⟩
      · rintro ⟨k', ⟨k, hik, hkk'⟩, hkj⟩
        exact ⟨k, hik, k', hkk', hkj⟩

theorem any_iff_exists_has : marks.any id = true ↔ ∃ i, marks.Has i := by
  simp only [List.any_eq_true, id, exists_eq_right, Has]
  exact List.mem_iff_getElem?

theorem has_join (h : a.length = b.length) (j : ℕ) :
    (join a b).Has j ↔ a.Has j ∨ b.Has j := by
  by_cases hj : j < a.length
  · have hj' : j < b.length := h ▸ hj
    simp [Has, join, List.getElem?_zipWith, List.getElem?_eq_getElem hj,
      List.getElem?_eq_getElem hj']
  · have hj' : ¬j < b.length := h ▸ hj
    simp [Has, join, List.getElem?_zipWith, List.getElem?_eq_none (Nat.not_lt.mp hj),
      List.getElem?_eq_none (Nat.not_lt.mp hj')]

/-- Marks that are joined with others stay what they are, or fewer places are without one. -/
theorem join_eq_or_count_lt (h : a.length = b.length) :
    join a b = a ∨ (join a b).count false < a.count false := by
  induction a generalizing b with
  | nil => exact .inl rfl
  | cons x a ih =>
      cases b with
      | nil => cases h
      | cons y b =>
          rw [show join (x :: a) (y :: b) = (x || y) :: join a b from rfl]
          rcases ih (Nat.succ.inj h) with ih | ih
          · cases x <;> cases y <;> simp [ih]
          · cases x <;> cases y <;> simp <;> omega

namespace Leads

variable (h : Leads size R step)
include h

omit h in
theorem of_iff {S : ℕ → ℕ → Prop} (h : Leads size R step) (hR : ∀ i j, R i j ↔ S i j) :
    Leads size S step := by
  obtain rfl : R = S := funext₂ fun i j => propext (hR i j)
  exact h

theorem comp {S : ℕ → ℕ → Prop} {step' : Marks → Marks} (h' : Leads size S step') :
    Leads size (fun i j => ∃ k, R i k ∧ S k j) fun marks => step' (step marks) where
  length_eq hm := h'.length_eq (h.length_eq hm)
  has_iff hm j := by
    rw [h'.has_iff (h.length_eq hm)]
    simp only [h.has_iff hm]
    constructor
    · rintro ⟨k, ⟨i, hi, hik⟩, hkj⟩
      exact ⟨i, hi, k, hik, hkj⟩
    · rintro ⟨i, hi, k, hik, hkj⟩
      exact ⟨k, ⟨i, hi, hik⟩, hkj⟩

theorem either {S : ℕ → ℕ → Prop} {step' : Marks → Marks} (h' : Leads size S step') :
    Leads size (fun i j => R i j ∨ S i j) fun marks => join (step marks) (step' marks) where
  length_eq hm := length_join (h.length_eq hm) (h'.length_eq hm)
  has_iff hm j := by
    rw [has_join ((h.length_eq hm).trans (h'.length_eq hm).symm), h.has_iff hm, h'.has_iff hm]
    simp only [and_or_left, exists_or]

/-! ### A number of steps -/

theorem exists_chain_succ (hm : marks.length = size) (n j : ℕ) :
    (∃ i, marks.Has i ∧ Chain R (n + 1) i j) ↔ ∃ i, (step marks).Has i ∧ Chain R n i j := by
  simp only [h.has_iff hm, Chain]
  constructor
  · rintro ⟨i, hi, k, hik, hkj⟩
    exact ⟨k, ⟨i, hi, hik⟩, hkj⟩
  · rintro ⟨k, ⟨i, hi, hik⟩, hkj⟩
    exact ⟨i, hi, k, hik, hkj⟩

theorem steps (n : ℕ) : Leads size (Chain R n) (Marks.steps step n) where
  length_eq := length_steps (fun _ => h.length_eq) n
  has_iff {marks} hm j := by
    induction n generalizing marks with
    | zero => simp [Marks.steps, Chain]
    | succ n ih =>
        rw [h.exists_chain_succ hm]
        simp only [Marks.steps]
        split
        · next hstop =>
            -- A step that leads nowhere else may be taken any number of times.
            have hstay : ∀ n, marks.Has j ↔ ∃ i, marks.Has i ∧ Chain R n i j := by
              intro n
              induction n with
              | zero => simp [Chain]
              | succ n ih => rw [h.exists_chain_succ hm, hstop, ih]
            rw [hstop]
            exact hstay n
        · exact ih (h.length_eq hm)

/-! ### Up to a number of steps -/

theorem has_join_step (hm : marks.length = size) (j : ℕ) :
    (join marks (step marks)).Has j ↔ marks.Has j ∨ ∃ i, marks.Has i ∧ R i j := by
  rw [has_join (hm.trans (h.length_eq hm).symm), h.has_iff hm]

/-- Places from which a step leads nowhere else are not left by any number of steps. -/
theorem has_of_chain (hm : marks.length = size) (hstop : join marks (step marks) = marks)
    {n i j : ℕ}
    (hi : marks.Has i) (hij : Chain R n i j) : marks.Has j := by
  induction n generalizing i with
  | zero => exact hij ▸ hi
  | succ n ih =>
      obtain ⟨k, hik, hkj⟩ := hij
      refine ih ?_ hkj
      rw [← hstop]
      exact (h.has_join_step hm k).mpr (.inr ⟨i, hi, hik⟩)

theorem spread (n : ℕ) :
    Leads size (fun i j => ∃ k ≤ n, Chain R k i j) (Marks.spread step n) where
  length_eq := length_spread (fun _ => h.length_eq) n
  has_iff {marks} hm j := by
    induction n generalizing marks with
    | zero => simp [Marks.spread, Chain]
    | succ n ih =>
        simp only [Marks.spread]
        split
        · next hstop =>
            constructor
            · intro hj
              exact ⟨j, hj, 0, Nat.zero_le _, rfl⟩
            · rintro ⟨i, hi, k, -, hij⟩
              exact h.has_of_chain hm hstop hi hij
        · rw [ih (length_join hm (h.length_eq hm))]
          simp only [h.has_join_step hm]
          constructor
          · rintro ⟨i, hi | ⟨i', hi', hstep⟩, k, hk, hij⟩
            · exact ⟨i, hi, k, by omega, hij⟩
            · exact ⟨i', hi', k + 1, by omega, i, hstep, hij⟩
          · rintro ⟨i, hi, k, hk, hij⟩
            cases k with
            | zero => exact ⟨i, .inl hi, 0, Nat.zero_le _, hij⟩
            | succ k =>
                obtain ⟨i', hstep, hij⟩ := hij
                exact ⟨i', .inr ⟨i, hi, hstep⟩, k, by omega, hij⟩

theorem join_step_spread (n : ℕ) (hm : marks.length = size) (hn : marks.count false ≤ n) :
    join (Marks.spread step n marks) (step (Marks.spread step n marks)) =
      Marks.spread step n marks := by
  induction n generalizing marks with
  | zero =>
      rcases join_eq_or_count_lt (hm.trans (h.length_eq hm).symm) with heq | hlt
      · exact heq
      · omega
  | succ n ih =>
      simp only [Marks.spread]
      split
      · assumption
      · next hgrows =>
          rcases join_eq_or_count_lt (hm.trans (h.length_eq hm).symm) with heq | hlt
          · exact absurd heq hgrows
          · exact ih (length_join hm (h.length_eq hm)) (by omega)

/-- As many steps as there are places lead as far as any number of them. -/
theorem spread_size : Leads size (fun i j => ∃ k, Chain R k i j) (Marks.spread step size) where
  length_eq := (h.spread size).length_eq
  has_iff {marks} hm j := by
    have hspread := h.spread size
    constructor
    · intro hj
      obtain ⟨i, hi, k, -, hij⟩ := (hspread.has_iff hm j).mp hj
      exact ⟨i, hi, k, hij⟩
    · rintro ⟨i, hi, k, hij⟩
      refine h.has_of_chain (hspread.length_eq hm) (h.join_step_spread size hm ?_) ?_ hij
      · exact hm ▸ List.count_le_length
      · exact (hspread.has_iff hm i).mpr ⟨i, hi, 0, Nat.zero_le _, rfl⟩

end Leads

end Marks

namespace Pattern

def around (text : List Char) (i : ℕ) : Option Char × Option Char :=
  (if i = 0 then none else text[i - 1]?, text[i]?)

/-- The piece of a text from a place `i` to a place `j` is as a pattern describes. What is repeated
occurs some number of times beyond the least one, and together not more often than allowed. -/
def Describes (text : List Char) : Pattern → ℕ → ℕ → Prop
  | empty, i, j => i = j
  | one set, i, j => j = i + 1 ∧ ∃ c, text[i]? = some c ∧ set.has c = true
  | look l, i, j => i = j ∧ l.holds (around text i).1 (around text i).2 = true
  | seq p q, i, j => ∃ k, Describes text p i k ∧ Describes text q k j
  | either p q, i, j => Describes text p i j ∨ Describes text q i j
  | group p, i, j => Describes text p i j
  | repeated least most? p, i, j =>
    ∃ more, (∀ most, most? = some most → more ≤ most - least) ∧
      Marks.Chain (Describes text p) (least + more) i j

theorem getElem?_surroundings (before? : Option Char) (text : List Char) (i : ℕ) :
    (surroundings before? text)[i]? =
      if i ≤ text.length then some (if i = 0 then before? else text[i - 1]?, text[i]?)
      else none := by
  induction text generalizing before? i with
  | nil => cases i <;> simp [surroundings]
  | cons c text ih =>
      cases i with
      | zero => simp [surroundings]
      | succ i =>
          rw [surroundings, List.getElem?_cons_succ, ih]
          cases i <;> simp

theorem leads_one (text : List Char) (set : CharSet) :
    Marks.Leads (text.length + 1) (Describes text (one set)) (ends text (one set)) where
  length_eq := length_ends text (one set)
  has_iff {marks} hm j := by
    cases j with
    | zero => simp [ends, Describes, Marks.Has]
    | succ j =>
        simp only [ends, Describes, Marks.Has, List.getElem?_cons_succ,
          List.getElem?_zipWith_eq_some, Bool.and_eq_true]
        constructor
        · rintro ⟨c, _, hc, hmark, rfl, hset⟩
          exact ⟨j, hmark, rfl, c, hc, hset⟩
        · rintro ⟨i, hmark, hj, c, hc, hset⟩
          obtain rfl := Nat.succ.inj hj
          exact ⟨c, true, hc, hmark, rfl, hset⟩

theorem leads_look (text : List Char) (l : Look) :
    Marks.Leads (text.length + 1) (Describes text (look l)) (ends text (look l)) where
  length_eq := length_ends text (look l)
  has_iff {marks} hm j := by
    simp only [ends, Describes, Marks.Has, List.getElem?_zipWith_eq_some, Bool.and_eq_true]
    constructor
    · rintro ⟨x, _, hx, hmark, rfl, hl⟩
      have hj : j ≤ text.length :=
        Nat.lt_succ_iff.mp (Nat.lt_of_lt_of_eq (Marks.Has.lt_length hmark) hm)
      rw [getElem?_surroundings, if_pos hj] at hx
      obtain rfl := Option.some.inj hx
      exact ⟨j, hmark, rfl, hl⟩
    · rintro ⟨i, hmark, rfl, hl⟩
      have hi : i ≤ text.length :=
        Nat.lt_succ_iff.mp (Nat.lt_of_lt_of_eq (Marks.Has.lt_length hmark) hm)
      exact ⟨_, true, (getElem?_surroundings none text i).trans (if_pos hi), hmark, rfl, hl⟩

theorem leads_repeated {text : List Char} {p : Pattern}
    (h : Marks.Leads (text.length + 1) (p.Describes text) (p.ends text)) (least : ℕ)
    (most? : Option ℕ) :
    Marks.Leads (text.length + 1) (Describes text (repeated least most? p))
      (ends text (repeated least most? p)) := by
  cases most? with
  | some most =>
      refine ((h.steps least).comp (h.spread (most - least))).of_iff fun i j => ?_
      simp only [Describes, Marks.chain_add, Option.some.injEq, forall_eq']
      constructor
      · rintro ⟨k, hik, more, hmore, hkj⟩
        exact ⟨more, hmore, k, hik, hkj⟩
      · rintro ⟨more, hmore, k, hik, hkj⟩
        exact ⟨k, hik, more, hmore, hkj⟩
  | none =>
      have hall := (h.steps least).comp h.spread_size
      refine ⟨length_ends text _, fun {marks} hm j => ?_⟩
      simp only [ends, hm]
      rw [hall.has_iff hm]
      simp only [Describes, Marks.chain_add, reduceCtorEq, false_implies, implies_true, true_and]
      refine exists_congr fun i => and_congr_right fun _ => ?_
      constructor
      · rintro ⟨k, hik, more, hkj⟩
        exact ⟨more, k, hik, hkj⟩
      · rintro ⟨more, k, hik, hkj⟩
        exact ⟨k, hik, more, hkj⟩

/-- From marked places a pattern leads to the ends of the pieces that it describes. -/
theorem leads_ends (text : List Char) (p : Pattern) :
    Marks.Leads (text.length + 1) (p.Describes text) (p.ends text) := by
  induction p with
  | empty => exact ⟨id, by simp [ends, Describes]⟩
  | one set => exact leads_one text set
  | look l => exact leads_look text l
  | seq p q ihp ihq => exact ihp.comp ihq
  | either p q ihp ihq => exact ihp.either ihq
  | group p ih => exact ih
  | repeated least most? p ih => exact leads_repeated ih least most?

/-- A pattern occurs in a text if it describes a piece of it. -/
theorem occursIn_iff {p : Pattern} {text : List Char} :
    p.occursIn text = true ↔ ∃ i ≤ text.length, ∃ j, p.Describes text i j := by
  rw [occursIn, Marks.any_iff_exists_has]
  simp only [(leads_ends text p).has_iff List.length_replicate, Marks.has_replicate,
    Nat.lt_succ_iff]
  exact exists_comm.trans (exists_congr fun i => exists_and_left)

end Pattern

end Predictive
