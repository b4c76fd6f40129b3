import Predictive.Proofs.LeftRecursion.Detection

/-!
# Left recursion that an elimination leaves

An elimination is refused if there is indirect left recursion. If it is not refused, the result can
be left-recursive in one way only: an alternative `A α` of `A` had an `α` that vanishes, and then
the tail of `A` comes back in `A' -> α A'`.

The tail of `A` is a left corner of `A` only if `A` vanishes. Then what follows `A` in a recursive
alternative was an indirect left corner of `A` before, so a way through left corners of the result
that begins at an old symbol can be followed in the grammar that was given
(`reachesBefore_of_reflTransGen`). A way back to a tail passes through an old symbol, because only
an `α` that vanishes leads from a tail to a tail.
-/

namespace Predictive

namespace Grammar

/-- Some alternative begins with its left side, and all that follows can vanish. -/
def HasVanishingRemainder (g : Grammar) : Prop :=
  ∃ A α, (A, A :: α) ∈ g.rules ∧ ∀ s ∈ α, g.Vanishes s

variable {g : Grammar}

/-! ### Old symbols -/

theorem notMem_tails_of_named (hg : g.WellFormed) {s : Symbol}
    (hs : s = .epsilon ∨ s ∈ g.symbols.named) : s ∉ g.elimination.tails := by
  intro htail
  rcases hs with rfl | hs
  · obtain ⟨name, hname⟩ := exists_eq_of_mem_tails _ _ htail
    cases hname
  · exact hg.tails_nodup.2 s htail hs

theorem left_notMem_tails (hg : g.WellFormed) {p : Production} (hp : p ∈ g.productions) :
    p.left ∉ g.elimination.tails :=
  notMem_tails_of_named hg (.inr (mem_nonTerminals.mp (hg.left_mem p hp)).1)

theorem IndirectCorner.notMem_tails (hg : g.WellFormed) {X Y : Symbol}
    (h : g.IndirectCorner X Y) :
    X ∉ g.elimination.tails ∧ Y ∉ g.elimination.tails := by
  obtain ⟨before, after, hrule, -⟩ := h
  have hX := (mem_nonTerminals.mp (hg.left_mem_of_rule hrule)).1
  have hY := hg.mem_named _ hrule Y (List.mem_append_right _ List.mem_cons_self)
  exact ⟨notMem_tails_of_named hg (.inr hX), notMem_tails_of_named hg hY⟩

theorem leads_eliminated_withTail_iff (hg : g.WellFormed) {α : List Symbol} {tail Y : Symbol}
    (hα : ∀ s ∈ α, s = .epsilon ∨ s ∈ g.symbols.named) (hY : Y ≠ .epsilon) :
    g.eliminated.Leads (Alternative.ofSequence (α ++ [tail])) Y ↔
      g.Leads α Y ∨ (∀ s ∈ α, g.Vanishes s) ∧ Y = tail := by
  have hvanish : (∀ s ∈ α, g.eliminated.Vanishes s) ↔ ∀ s ∈ α, g.Vanishes s :=
    forall₂_congr fun s hs => hg.keeps_eliminated.vanishes_iff (hα s hs)
  rw [leads_ofSequence_iff hY, leads_append_iff, hg.keeps_eliminated.leads_iff hα, hvanish,
    leads_cons_iff]
  simp [not_leads_nil]

/-! ### The left corners of the result -/

/-- A left corner of the result is an indirect one of before, or it is the tail of a left side that
vanishes, or it leads what the tail stands behind. -/
theorem leftCorner_eliminated (hg : g.WellFormed) {X Y : Symbol} (hY : Y ≠ .epsilon)
    (h : g.eliminated.LeftCorner X Y) :
    g.IndirectCorner X Y ∨ ∃ p ∈ g.productions, ∃ tail, g.elimination.Removes p tail ∧
      (X = p.left ∧ Y = tail ∧ g.Vanishes p.left ∨
        X = tail ∧ ∃ α ∈ p.recursive, g.Leads α Y ∨ (∀ s ∈ α, g.Vanishes s) ∧ Y = tail) := by
  obtain ⟨a, hrule, hleads⟩ := h
  rcases hg.mem_rules_eliminated hrule with ⟨hold, hhead⟩ | ⟨p, hp, tail, hremoves, hcases⟩
  · rw [hg.keeps_eliminated.leads_iff (hg.mem_named _ hold)] at hleads
    exact .inl (indirectCorner_of_leads hold hhead hleads)
  · obtain ⟨-, hothers, hrecursive⟩ := hg.mem_named_of_removes hp hremoves
    rcases hcases with ⟨rfl, b, hb, rfl⟩ | ⟨rfl, α, hα, rfl⟩ | ⟨rfl, rfl⟩
    · have hb' : (p.left, b) ∈ g.rules :=
        (mem_rules_iff g _ _).mpr ⟨p, hp, rfl, Production.mem_of_mem_others hb⟩
      rcases (leads_eliminated_withTail_iff hg (hothers b hb) hY).mp hleads with hleads | ⟨hb, rfl⟩
      · exact .inl (indirectCorner_of_leads hb' (Production.head?_ne_of_mem_others hb) hleads)
      · obtain ⟨name, hname⟩ := hg.exists_left_eq hb'
        dsimp only at hname
        have hvanishes : g.Vanishes p.left := hname ▸ vanishes_of_rule (hname ▸ hb') hb
        exact .inr ⟨p, hp, Y, hremoves, .inl ⟨rfl, rfl, hvanishes⟩⟩
    · have hleads := (leads_eliminated_withTail_iff hg (hrecursive α hα) hY).mp hleads
      exact .inr ⟨p, hp, X, hremoves, .inr ⟨rfl, α, hα, hleads⟩⟩
    · rcases leads_cons_iff.mp hleads with heq | ⟨-, hnil⟩
      · exact absurd heq hY
      · exact absurd hnil (not_leads_nil _ Y)

/-- The tail of a left side does not lead to a tail, if no remainder vanishes. -/
theorem leftCorner_tail_eliminated (hg : g.WellFormed) (hrest : ¬ g.HasVanishingRemainder)
    {tail Y : Symbol} (htail : tail ∈ g.elimination.tails) (hY : Y ≠ .epsilon)
    (h : g.eliminated.LeftCorner tail Y) :
    Y ∉ g.elimination.tails ∧ ∀ p ∈ g.productions, g.elimination.Removes p tail →
      g.Vanishes p.left → g.IndirectCorner p.left Y := by
  rcases leftCorner_eliminated hg hY h with hold | ⟨q, hq, tail', hremoves, hcases⟩
  · exact absurd htail (hold.notMem_tails hg).1
  · rcases hcases with ⟨rfl, -⟩ | ⟨rfl, α, hα, hleads⟩
    · exact absurd htail (left_notMem_tails hg hq)
    · have hrule : (q.left, q.left :: α) ∈ g.rules :=
        (mem_rules_iff g _ _).mpr ⟨q, hq, rfl, Production.mem_recursive.mp hα⟩
      rcases hleads with hleads | ⟨hα, -⟩
      · have hnamed := hg.mem_named _ hrule Y (List.mem_cons_of_mem _ hleads.mem)
        refine ⟨notMem_tails_of_named hg hnamed, ?_⟩
        intro p hp hremoves' hvanishes
        obtain rfl := hg.eq_of_removes hp hq hremoves' hremoves
        exact indirectCorner_of_recursive hrule hvanishes hleads
      · exact absurd ⟨q.left, α, hrule, hα⟩ hrest

/-! ### Ways through left corners of the result -/

/-- A symbol that is reached through indirect left corners of before, or the tail of a left side
that vanishes and is reached so. -/
def ReachesBefore (g : Grammar) (X Y : Symbol) : Prop :=
  Relation.ReflTransGen g.IndirectCorner X Y ∨
    ∃ p ∈ g.productions, g.elimination.Removes p Y ∧ g.Vanishes p.left ∧
      Relation.ReflTransGen g.IndirectCorner X p.left

/-- One left corner further: if it is no tail, it has been one edge further before. -/
theorem ReachesBefore.leftCorner (hg : g.WellFormed) (hrest : ¬ g.HasVanishingRemainder)
    {X Y Z : Symbol} (hX : X ∉ g.elimination.tails) (h : g.ReachesBefore X Y)
    (hYZ : g.eliminated.LeftCorner Y Z) (hZ : Z ≠ .epsilon) :
    g.ReachesBefore X Z ∧
      (Z ∉ g.elimination.tails → Relation.TransGen g.IndirectCorner X Z) := by
  rcases h with hXY | ⟨p, hp, hremoves, hvanishes, hXp⟩
  · have hY : Y ∉ g.elimination.tails := by
      rcases Relation.ReflTransGen.cases_tail hXY with rfl | ⟨W, -, hWY⟩
      · exact hX
      · exact (hWY.notMem_tails hg).2
    rcases leftCorner_eliminated hg hZ hYZ with hold | ⟨p, hp, tail, hremoves, hcases⟩
    · exact ⟨.inl (hXY.tail hold), fun _ => .tail' hXY hold⟩
    · rcases hcases with ⟨rfl, rfl, hvanishes⟩ | ⟨rfl, -⟩
      · exact ⟨.inr ⟨p, hp, hremoves, hvanishes, hXY⟩, fun hZ => absurd hremoves.tail_mem hZ⟩
      · exact absurd hremoves.tail_mem hY
  · have hnext := leftCorner_tail_eliminated hg hrest hremoves.tail_mem hZ hYZ
    have hpZ := hnext.2 p hp hremoves hvanishes
    exact ⟨.inl (hXp.tail hpZ), fun _ => .tail' hXp hpZ⟩

theorem reachesBefore_of_reflTransGen (hg : g.WellFormed) (hrest : ¬ g.HasVanishingRemainder)
    {X Y : Symbol} (hX : X ∉ g.elimination.tails)
    (h : Relation.ReflTransGen g.eliminated.LeftCorner X Y) (hY : Y ≠ .epsilon) :
    g.ReachesBefore X Y := by
  induction h with
  | refl => exact .inl .refl
  | tail _ hYZ ih =>
      have hreaches := ih (hYZ.left_ne_epsilon hg.eliminated)
      exact (hreaches.leftCorner hg hrest hX hYZ hY).1

/-- A symbol of the result that reaches itself leads to an old one that does. -/
theorem exists_old_transGen_eliminated (hg : g.WellFormed) (hrest : ¬ g.HasVanishingRemainder)
    {A : Symbol} (h : Relation.TransGen g.eliminated.LeftCorner A A) :
    ∃ B, B ∉ g.elimination.tails ∧ Relation.TransGen g.eliminated.LeftCorner B B := by
  by_cases hA : A ∈ g.elimination.tails
  · obtain ⟨B, hAB, hBA⟩ := Relation.TransGen.head'_iff.mp h
    have hBB : Relation.TransGen g.eliminated.LeftCorner B B := .tail' hBA hAB
    obtain ⟨C, hBC, -⟩ := Relation.TransGen.head'_iff.mp hBB
    have hB := hBC.left_ne_epsilon hg.eliminated
    exact ⟨B, (leftCorner_tail_eliminated hg hrest hA hB hAB).1, hBB⟩
  · exact ⟨A, hA, h⟩

theorem not_transGen_eliminated (hg : g.WellFormed) (hcycle : g.indirectCycle? = none)
    (hrest : ¬ g.HasVanishingRemainder) (A : Symbol) :
    ¬ Relation.TransGen g.eliminated.LeftCorner A A := by
  intro h
  obtain ⟨B, hB, hBB⟩ := exists_old_transGen_eliminated hg hrest h
  obtain ⟨C, hBC, hCB⟩ := Relation.TransGen.tail'_iff.mp hBB
  obtain ⟨D, hBD, -⟩ := Relation.TransGen.head'_iff.mp hBB
  have hne := hBD.left_ne_epsilon hg.eliminated
  have hreaches := reachesBefore_of_reflTransGen hg hrest hB hBC (hCB.left_ne_epsilon hg.eliminated)
  have hbefore := (hreaches.leftCorner hg hrest hB hCB hne).2 hB
  exact hg.not_transGen_of_indirectCycle? hcycle B hbefore

/-! ### What an elimination leaves -/

/-- The tail of a left side comes back behind a remainder that vanishes. -/
theorem HasVanishingRemainder.exists_transGen (hg : g.WellFormed)
    (h : g.HasVanishingRemainder) : ∃ A, Relation.TransGen g.eliminated.LeftCorner A A := by
  obtain ⟨A, α, hrule, hα⟩ := h
  rcases hg.mem_rules_of_eliminated hrule with ⟨-, hhead⟩ | ⟨p, hp, rfl, ha, tail, hremoves⟩
  · exact absurd rfl hhead
  · have hα' := Production.mem_recursive.mpr ha
    have htail : (tail, Alternative.ofSequence (α ++ [tail])) ∈ g.eliminated.rules :=
      (mem_rules_iff _ _ _).mpr ⟨_, hremoves.tailProduction_mem, rfl,
        Production.mem_tailProduction.mpr (.inl ⟨α, hα', rfl⟩)⟩
    have hne : tail ≠ .epsilon := by
      obtain ⟨name, rfl⟩ := exists_eq_of_mem_tails _ _ hremoves.tail_mem
      simp
    have hnamed := (hg.mem_named_of_removes hp hremoves).2.2 α hα'
    have hleads := (leads_eliminated_withTail_iff hg hnamed hne).mpr (.inr ⟨hα, rfl⟩)
    exact ⟨tail, .single ⟨_, htail, hleads⟩⟩

theorem WellFormed.leftRecursion_eliminated_iff (hg : g.WellFormed)
    (hcycle : g.indirectCycle? = none) :
    (g.eliminated.hasDirectLeftRecursion = true ∨ g.eliminated.indirectCycle?.isSome = true) ↔
      g.HasVanishingRemainder := by
  rw [hg.eliminated.leftRecursion_iff_transGen]
  constructor
  · rintro ⟨A, hA⟩
    by_contra hrest
    exact not_transGen_eliminated hg hcycle hrest A hA
  · exact fun h => h.exists_transGen hg

/-- An elimination leaves left recursion exactly when some alternative begins with its left side and
all that follows can vanish. Otherwise no non-terminal of the result derives a form that begins with
itself. -/
theorem eliminate_leftRecursion_iff (lexing : Lexing) (text : String) (n : ℕ) {r : Grammar}
    {removals : List Removal}
    (h : (Grammar.factor^[n] (load lexing text).1).eliminate = .ok (r, removals)) :
    ((r.hasDirectLeftRecursion = true ∨ r.indirectCycle?.isSome = true) ↔
      (Grammar.factor^[n] (load lexing text).1).HasVanishingRemainder) ∧
    (¬ (Grammar.factor^[n] (load lexing text).1).HasVanishingRemainder →
      r.hasDirectLeftRecursion = false ∧ r.indirectCycle? = none ∧
        ∀ A ∈ r.nonTerminals, ∀ γ, ¬ Relation.TransGen r.Rewrites [A] (A :: γ)) := by
  have hg := (wellFormed_load lexing text).iterate_factor n
  have hiff := hg.leftRecursion_eliminated_iff (indirectCycle?_of_eliminate h)
  rw [eq_eliminated_of_eliminate h]
  refine ⟨hiff, fun hrest => ?_⟩
  have hnone := mt hiff.mp hrest
  refine ⟨?_, ?_, ?_⟩
  · simpa using mt Or.inl hnone
  · simpa using mt Or.inr hnone
  · intro A hA γ hγ
    exact hnone (hg.eliminated.leftRecursion_iff_derives.mpr ⟨A, hA, γ, hγ⟩)

/-- A remainder that is not empty but can vanish. -/
theorem eliminate_leftRecursion_iff_remainder :
    let g := Grammar.factor^[1] (load .compact "E -> E A | x\nA -> a | ε").1
    g.eliminate = .ok (g.eliminated, g.elimination.removals) ∧
      g.eliminated.hasDirectLeftRecursion = false ∧
      g.eliminated.indirectCycle?.isSome = true ∧ g.HasVanishingRemainder := by
  have hnone : (Grammar.factor^[1]
      (load .compact "E -> E A | x\nA -> a | ε").1).indirectCycle? = none := by cbv
  have hdirect : (Grammar.factor^[1]
      (load .compact "E -> E A | x\nA -> a | ε").1).eliminated.hasDirectLeftRecursion = false := by
    cbv
  have hcycle : (Grammar.factor^[1]
      (load .compact "E -> E A | x\nA -> a | ε").1).eliminated.indirectCycle?.isSome = true := by
    cbv
  intro g
  have heliminate := eliminate_eq_of_indirectCycle? hnone
  obtain ⟨hiff, -⟩ := eliminate_leftRecursion_iff .compact _ 1 heliminate
  exact ⟨heliminate, hdirect, hcycle, hiff.mp (.inr hcycle)⟩

end Grammar

end Predictive
