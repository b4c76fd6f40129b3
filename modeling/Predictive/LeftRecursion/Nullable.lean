import Predictive.Grammar.Basic
import Predictive.Saturation
import Predictive.Decrease

/-!
# Symbols that derive the empty word

`nullable` is the set of left sides that derive the empty word. The search goes over the productions
again and again. Each time it skips the left sides that it knows, and takes in the others that have
an alternative of only `ε` and known symbols. When it has gone over all of them and nothing was new,
the set is complete (`nullable_complete`).
-/

namespace Predictive

/-- Whether every symbol of a sequence is `ε` or in the set. -/
def vanishes (known : List Symbol) (sequence : List Symbol) : Bool :=
  sequence.all fun s => s == .epsilon || known.contains s

/-- Takes in a left side that is not known yet when one of its alternatives vanishes. -/
def nullableUpdate (p : Production) (known : List Symbol) : List Symbol × Bool :=
  if known.contains p.left then (known, false)
  else if p.alternatives.any (vanishes known) then (p.left :: known, true)
  else (known, false)

/-- An update either takes in the left side, which was not known and has an alternative that
vanishes, or there is no reason to. -/
theorem nullableUpdate_cases (p : Production) (known : List Symbol) :
    nullableUpdate p known = (p.left :: known, true) ∧ p.left ∉ known ∧
        (∃ a ∈ p.alternatives, vanishes known a = true) ∨
      nullableUpdate p known = (known, false) ∧
        (p.left ∈ known ∨ ∀ a ∈ p.alternatives, vanishes known a = false) := by
  unfold nullableUpdate
  split
  · next hknown => exact .inr ⟨rfl, .inl (List.contains_iff_mem.mp hknown)⟩
  · next hnew =>
      split
      · next h => exact .inl ⟨rfl, fun hmem => hnew (List.contains_iff_mem.mpr hmem),
          List.any_eq_true.mp h⟩
      · next h => exact .inr ⟨rfl, .inr (by simpa using h)⟩

theorem subset_nullableUpdate (p : Production) (known : List Symbol) :
    known ⊆ (nullableUpdate p known).1 := by
  rcases nullableUpdate_cases p known with ⟨h, -⟩ | ⟨h, -⟩
  · rw [h]
    exact List.subset_cons_self _ _
  · rw [h]
    exact List.Subset.refl _

theorem nullableUpdate_of_unchanged {p : Production} {known : List Symbol}
    (h : (nullableUpdate p known).2 = false) :
    nullableUpdate p known = (known, false) ∧
      (p.left ∈ known ∨ ∀ a ∈ p.alternatives, vanishes known a = false) := by
  rcases nullableUpdate_cases p known with ⟨hnew, -⟩ | hsame
  · rw [hnew] at h
    cases h
  · exact hsame

/-- A sweep that reports something new has taken in a left side that was not known. -/
theorem exists_left_of_sweep_nullableUpdate {productions : List Production} {known : List Symbol}
    (h : (sweep nullableUpdate productions known).2 = true) :
    ∃ p ∈ productions, p.left ∉ known ∧ p.left ∈ (sweep nullableUpdate productions known).1 := by
  induction productions generalizing known with
  | nil => cases h
  | cons p productions ih =>
      rw [sweep] at h ⊢
      rcases nullableUpdate_cases p known with ⟨heq, hleft, -⟩ | ⟨heq, -⟩
      · refine ⟨p, List.mem_cons_self, hleft, ?_⟩
        rw [heq]
        exact sweep_of_update (P := (p.left ∈ ·))
          (fun q _ known hmem => subset_nullableUpdate q known hmem) List.mem_cons_self
      · rw [heq, Bool.false_or] at h
        rw [heq]
        obtain ⟨q, hq, hleft, hmem⟩ := ih h
        exact ⟨q, List.mem_cons_of_mem p hq, hleft, hmem⟩

namespace Grammar

/-- Goes over all productions once, and says whether there was something new. -/
def nullablePass (g : Grammar) (known : List Symbol) : List Symbol × Bool :=
  sweep nullableUpdate g.productions known

theorem subset_nullablePass (g : Grammar) (known : List Symbol) :
    known ⊆ (g.nullablePass known).1 :=
  sweep_of_update (P := (known ⊆ ·))
    (fun p _ _ h => List.Subset.trans h (subset_nullableUpdate p _)) (List.Subset.refl known)

/-- The number of productions whose left side is not known yet. -/
def unknown (g : Grammar) (known : List Symbol) : Nat :=
  g.productions.countP fun p => !known.contains p.left

theorem unknown_nullablePass_lt (g : Grammar) {known : List Symbol}
    (h : (g.nullablePass known).2 = true) :
    g.unknown (g.nullablePass known).1 < g.unknown known := by
  obtain ⟨p, hp, hold, hnew⟩ := exists_left_of_sweep_nullableUpdate h
  apply countP_lt_countP (a := p)
  · simp only [List.contains_eq_mem, Bool.not_eq_true', decide_eq_false_iff_not]
    exact fun q _ hq hmem => hq (g.subset_nullablePass known hmem)
  · exact hp
  · simpa [nullablePass] using hnew
  · simpa using hold

/-- The left sides that derive the empty word. -/
def nullable (g : Grammar) : List Symbol :=
  (untilStable g.nullablePass (fun _ => True) g.unknown (fun _ _ => trivial)
    (fun _ _ h => g.unknown_nullablePass_lt h) [] trivial).value

/-- No left side is missing. -/
theorem nullable_complete (g : Grammar) {p : Production} (hp : p ∈ g.productions) :
    (nullableUpdate p g.nullable).2 = false := by
  obtain ⟨known, -, h⟩ : ∃ known, True ∧ g.nullablePass known = (g.nullable, false) :=
    step_untilStable _ _ _ _
  obtain ⟨heq, hall⟩ := sweep_unchanged
    (fun p known hsame => congrArg Prod.fst (nullableUpdate_of_unchanged hsame).1)
    (congrArg Prod.snd h)
  have hknown : known = g.nullable := heq.symm.trans (congrArg Prod.fst h)
  exact hknown ▸ hall p hp

end Grammar

end Predictive
