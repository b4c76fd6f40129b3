import Predictive.Proofs.Grammar.Prepared
import Predictive.Proofs.LeftRecursion.Corner
import Predictive.Proofs.LeftRecursion.Search

/-!
# Left recursion is detected

The edges that the search for a cycle goes along are the indirect left corners that are
non-terminals (`WellFormed.mem_indirectEdges_iff`). Only left sides have left corners, so on a way
back to its beginning nothing is lost by this condition, and every such way starts at a vertex that
the search looks at.

A left corner that is not indirect is the left side at the front of its own alternative. A grammar
without that is therefore left-recursive only through indirect left corners, and both tests together
find every non-terminal that derives a form beginning with itself.
-/

namespace Predictive

theorem leftCorners_epsilon (nullable rest : List Symbol) :
    leftCorners nullable (.epsilon :: rest) = leftCorners nullable rest := by
  rw [leftCorners, if_pos rfl]

theorem leftCorners_cons_of_isNonTerminal_eq_false {nullable rest : List Symbol} {s : Symbol}
    (hs : s.isNonTerminal = false) (hne : s ≠ .epsilon) :
    leftCorners nullable (s :: rest) = [] := by
  simp [leftCorners, hs, hne]

theorem leftCorners_cons_of_isNonTerminal {nullable rest : List Symbol} {s : Symbol}
    (hs : s.isNonTerminal = true) :
    leftCorners nullable (s :: rest) =
      s :: if nullable.contains s then leftCorners nullable rest else [] := by
  have hne : s ≠ .epsilon := by
    rintro rfl
    cases hs
  rw [leftCorners, if_neg hne, hs, Bool.not_true, if_neg Bool.false_ne_true]
  split <;> rfl

namespace Grammar

variable {g : Grammar}

/-! ### The edges of the search -/

theorem WellFormed.mem_leftCorners_iff (hg : g.WellFormed) {α : List Symbol} {Y : Symbol} :
    Y ∈ leftCorners g.nullable α ↔ g.Leads α Y ∧ Y.isNonTerminal = true := by
  induction α with
  | nil => simp [leftCorners, not_leads_nil]
  | cons s α ih =>
      rw [leads_cons_iff]
      by_cases hs : s = .epsilon
      · have hne : Y.isNonTerminal = true → Y ≠ .epsilon := by
          rintro hY rfl
          cases hY
        rw [hs, leftCorners_epsilon, ih]
        simp only [vanishes_epsilon, true_and]
        tauto
      · cases hkind : s.isNonTerminal with
        | false =>
            have hstays : ¬ g.Vanishes s := not_vanishes_of_isNonTerminal_eq_false hkind hs
            have hne : Y = s → Y.isNonTerminal = false := by
              rintro rfl
              exact hkind
            rw [leftCorners_cons_of_isNonTerminal_eq_false hkind hs]
            simp only [hstays, false_and, or_false, List.not_mem_nil, false_iff, not_and]
            intro heq
            simp [hne heq]
        | true =>
            have hY : Y = s → Y.isNonTerminal = true := by
              rintro rfl
              exact hkind
            rw [leftCorners_cons_of_isNonTerminal hkind, List.mem_cons, List.mem_ite_nil_right,
              hg.contains_nullable_iff hs, ih]
            tauto

theorem WellFormed.mem_indirectCorners_iff (hg : g.WellFormed) {X Y : Symbol} {a : Alternative}
    (hX : X.isNonTerminal = true) :
    Y ∈ indirectCorners g.nullable X a ↔
      (List.head? a ≠ some X ∧ g.Leads a Y ∨
        ∃ α, a = X :: α ∧ g.Vanishes X ∧ g.Leads α Y) ∧ Y.isNonTerminal = true := by
  have hne : X ≠ .epsilon := by
    rintro rfl
    cases hX
  rw [indirectCorners]
  by_cases hhead : List.head? a = some X
  · obtain ⟨α, rfl⟩ := List.head?_eq_some_iff.mp hhead
    rw [if_pos hhead, leftCorners_cons_of_isNonTerminal hX, List.tail_cons,
      List.mem_ite_nil_right, hg.contains_nullable_iff hne, hg.mem_leftCorners_iff]
    simp [and_assoc]
  · have hnot : ¬ ∃ α, a = X :: α ∧ g.Vanishes X ∧ g.Leads α Y := by
      rintro ⟨α, rfl, -⟩
      exact hhead rfl
    rw [if_neg hhead, hg.mem_leftCorners_iff]
    simp only [hnot, hhead, ne_eq, not_false_eq_true, true_and, or_false]

theorem WellFormed.mem_indirectEdges_iff (hg : g.WellFormed) {X Y : Symbol} :
    Y ∈ g.indirectEdges g.nullable X ↔ g.IndirectCorner X Y ∧ Y.isNonTerminal = true := by
  rw [indirectCorner_iff, indirectEdges]
  cases hp : g.production? X with
  | none =>
      have hrules : ∀ a, (X, a) ∉ g.rules := by
        intro a hrule
        obtain ⟨p, hmem, rfl, -⟩ := (mem_rules_iff g _ _).mp hrule
        rw [hg.production?_left hmem] at hp
        cases hp
      simp [hrules]
  | some p =>
      have hmem : p ∈ g.productions := List.mem_of_find?_eq_some hp
      obtain rfl := left_of_production?_eq_some hp
      have hleft : p.left.isNonTerminal = true := (mem_nonTerminals.mp (hg.left_mem p hmem)).2
      have hrules : ∀ a, (p.left, a) ∈ g.rules ↔ a ∈ p.alternatives := fun a =>
        ⟨hg.mem_alternatives_of_rule hmem, fun ha => (mem_rules_iff g _ _).mpr ⟨p, hmem, rfl, ha⟩⟩
      simp only [List.mem_flatMap, hg.mem_indirectCorners_iff hleft, hrules, ← and_assoc,
        exists_and_right]

/-- On a way through indirect left corners that ends at a non-terminal, all vertices are
non-terminals. -/
theorem transGen_indirectEdges (hg : g.WellFormed) {X Y : Symbol}
    (h : Relation.TransGen g.IndirectCorner X Y) (hY : Y.isNonTerminal = true) :
    Relation.TransGen (fun v w => w ∈ g.indirectEdges g.nullable v) X Y := by
  induction h with
  | single h => exact .single (hg.mem_indirectEdges_iff.mpr ⟨h, hY⟩)
  | tail _ hYZ ih =>
      have hkind := (mem_nonTerminals.mp (hYZ.leftCorner.left_mem hg)).2
      exact .tail (ih hkind) (hg.mem_indirectEdges_iff.mpr ⟨hYZ, hY⟩)

/-! ### The answer of the search -/

theorem WellFormed.simpleCycle_of_indirectCycle? (hg : g.WellFormed) {cycle : List Symbol}
    (h : g.indirectCycle? = some cycle) : SimpleCycle g.IndirectCorner cycle := by
  unfold indirectCycle? at h
  split at h
  · next heq =>
      cases h
      have hcycle := simpleCycle_of_explore_eq_error .nil .nil (by simp) heq
      exact hcycle.mono fun v w hw => (hg.mem_indirectEdges_iff.mp hw).1
  · cases h

theorem WellFormed.not_transGen_of_indirectCycle? (hg : g.WellFormed)
    (h : g.indirectCycle? = none) (X : Symbol) : ¬ Relation.TransGen g.IndirectCorner X X := by
  intro hloop
  obtain ⟨Y, hXY, -⟩ := Relation.TransGen.head'_iff.mp hloop
  have hX := hXY.leftCorner.left_mem hg
  have hedges := transGen_indirectEdges hg hloop (mem_nonTerminals.mp hX).2
  unfold indirectCycle? at h
  split at h
  · cases h
  · next rest heq =>
      -- A symbol that is no non-terminal has no edges, so nothing lies behind it.
      have hbehind : ∀ v, v ∉ g.nonTerminals → v ∉ ([] : List Symbol) →
          Acc (fun w v => w ∈ g.indirectEdges g.nullable v) v := by
        intro v hv _
        refine .intro v fun w hw => ?_
        exact absurd ((hg.mem_indirectEdges_iff.mp hw).1.leftCorner.left_mem hg) hv
      obtain ⟨hacc, -⟩ := acc_of_explore_eq_ok hbehind heq
      exact not_transGen_of_acc (hacc X hX) hedges

theorem WellFormed.isSome_indirectCycle?_iff (hg : g.WellFormed) :
    g.indirectCycle?.isSome = true ↔ ∃ X, Relation.TransGen g.IndirectCorner X X := by
  cases h : g.indirectCycle? with
  | some cycle =>
      have hcycle := hg.simpleCycle_of_indirectCycle? h
      exact iff_of_true rfl hcycle.exists_transGen
  | none =>
      refine iff_of_false (by simp) ?_
      rintro ⟨X, hX⟩
      exact hg.not_transGen_of_indirectCycle? h X hX

/-! ### Both tests -/

theorem hasDirectLeftRecursion_iff :
    g.hasDirectLeftRecursion = true ↔ ∃ A α, (A, A :: α) ∈ g.rules := by
  simp only [hasDirectLeftRecursion, List.any_eq_true, beq_iff_eq, Prod.exists]
  constructor
  · rintro ⟨A, a, hrule, hhead⟩
    obtain ⟨α, rfl⟩ := List.head?_eq_some_iff.mp hhead
    exact ⟨A, α, hrule⟩
  · rintro ⟨A, α, hrule⟩
    exact ⟨A, A :: α, hrule, rfl⟩

/-- Both tests find nothing exactly when no symbol reaches itself through left corners. -/
theorem WellFormed.leftRecursion_iff_transGen (hg : g.WellFormed) :
    (g.hasDirectLeftRecursion = true ∨ g.indirectCycle?.isSome = true) ↔
      ∃ A, Relation.TransGen g.LeftCorner A A := by
  rw [hasDirectLeftRecursion_iff, hg.isSome_indirectCycle?_iff]
  constructor
  · rintro (⟨A, α, hrule⟩ | ⟨X, hX⟩)
    · exact ⟨A, .single ⟨A :: α, hrule, leads_cons_iff.mpr (.inl rfl)⟩⟩
    · exact ⟨X, Relation.TransGen.mono (fun _ _ h => h.leftCorner) _ _ hX⟩
  · rintro ⟨A, hA⟩
    by_cases hdirect : ∃ A α, (A, A :: α) ∈ g.rules
    · exact .inl hdirect
    · right
      have hindirect : ∀ X Y, g.LeftCorner X Y → g.IndirectCorner X Y := by
        rintro X Y ⟨a, hrule, hleads⟩
        refine indirectCorner_of_leads hrule (fun hhead => hdirect ?_) hleads
        obtain ⟨α, rfl⟩ := List.head?_eq_some_iff.mp hhead
        exact ⟨X, α, hrule⟩
      exact ⟨A, Relation.TransGen.mono hindirect _ _ hA⟩

theorem WellFormed.leftRecursion_iff_derives (hg : g.WellFormed) :
    (g.hasDirectLeftRecursion = true ∨ g.indirectCycle?.isSome = true) ↔
      ∃ A ∈ g.nonTerminals, ∃ γ, Relation.TransGen g.Rewrites [A] (A :: γ) := by
  rw [hg.leftRecursion_iff_transGen]
  exact exists_congr fun A => hg.transGen_leftCorner_iff

/-- A grammar is left-recursive exactly when one of the two tests says so. A cycle that is reported
is one of indirect left corners, and none is reported only if there is none. -/
theorem leftRecursion_detected (hg : g.Prepared) :
    ((∃ A ∈ g.nonTerminals, ∃ γ, Relation.TransGen g.Rewrites [A] (A :: γ)) ↔
      g.hasDirectLeftRecursion = true ∨ g.indirectCycle?.isSome = true) ∧
    (∀ cycle, g.indirectCycle? = some cycle → SimpleCycle g.IndirectCorner cycle) ∧
    (g.indirectCycle? = none → ∀ walk, ¬ ClosedWalk g.IndirectCorner walk) := by
  refine ⟨hg.wellFormed.leftRecursion_iff_derives.symm, ?_, ?_⟩
  · intro cycle hcycle
    exact hg.wellFormed.simpleCycle_of_indirectCycle? hcycle
  · intro hnone walk hwalk
    obtain ⟨X, hX⟩ := hwalk.exists_transGen
    exact hg.wellFormed.not_transGen_of_indirectCycle? hnone X hX

/-- A left side that comes back behind a symbol that can vanish. -/
theorem leftRecursion_detected_hidden :
    let g := (load .compact "S -> A S b | c\nA -> a | ε").1
    g.hasDirectLeftRecursion = false ∧
      g.indirectCycle? = some [.nonTerminal "S", .nonTerminal "S"] ∧
      SimpleCycle g.IndirectCorner [.nonTerminal "S", .nonTerminal "S"] ∧
      ∃ A ∈ g.nonTerminals, ∃ γ, Relation.TransGen g.Rewrites [A] (A :: γ) := by
  have hdirect :
      (load .compact "S -> A S b | c\nA -> a | ε").1.hasDirectLeftRecursion = false := by cbv
  have hcycle : (load .compact "S -> A S b | c\nA -> a | ε").1.indirectCycle? =
      some [.nonTerminal "S", .nonTerminal "S"] := by cbv
  intro g
  obtain ⟨hderives, hsimple, -⟩ :=
    leftRecursion_detected (.load .compact "S -> A S b | c\nA -> a | ε")
  refine ⟨hdirect, hcycle, hsimple _ hcycle, hderives.mpr (.inr ?_)⟩
  rw [hcycle]
  rfl

end Grammar

end Predictive
