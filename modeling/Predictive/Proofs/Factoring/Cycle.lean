import Predictive.Proofs.Factoring.Language
import Predictive.Proofs.LeftRecursion.Detection

/-!
# Left factoring keeps indirect left recursion

A pass makes no cycle of indirect left corners and breaks none, so the search for a cycle gives the
same answer before and after it, apart from the way that the cycle takes.

An indirect left corner of before is still one, or it has become a way of two steps through the new
left side of a split (`IndirectCorner.transGen_factor`). Back, a way that begins at an old symbol
can be followed in the grammar of before: the new left side `F` of a split `head F` is a left corner
only if `head` vanishes, and what leads a suffix then led the whole alternative
(`ReachesUnfactored.indirectCorner`). A new left side leads to old symbols only, so a cycle always
passes through one.
-/

namespace Predictive

namespace Grammar

variable {g : Grammar}

theorem IndirectCorner.right_mem_named (hg : g.WellFormed) {X Y : Symbol}
    (h : g.IndirectCorner X Y) (hY : Y ≠ .epsilon) : Y ∈ g.symbols.named := by
  obtain ⟨before, after, hrule, -⟩ := h
  have hnamed := hg.mem_named _ hrule Y (List.mem_append_right _ List.mem_cons_self)
  exact hnamed.resolve_left hY

/-! ### Every cycle is kept -/

theorem IndirectCorner.transGen_factor (hg : g.WellFormed) {X Y : Symbol}
    (h : g.IndirectCorner X Y) : Relation.TransGen g.factor.IndirectCorner X Y := by
  obtain ⟨before, after, hrule, hbefore, hne⟩ := h
  have hnamed := hg.mem_named _ hrule
  have hvanish : ∀ s ∈ before, g.factor.Vanishes s := fun s hs =>
    (hg.keeps_factor.vanishes_iff (hnamed s (List.mem_append_left _ hs))).mpr (hbefore s hs)
  rcases mem_rules_of_factor hrule with hkept | ⟨head, suffixes, p, hsplit, suffix, hsuffix, heq⟩
  · exact .single ⟨before, after, hkept, hvanish, hne⟩
  · cases before with
    | nil =>
        cases heq
        exact .single ⟨[], [p.left], hsplit.head_mem, by simp, hne⟩
    | cons s before =>
        cases heq
        obtain ⟨hhead, hbefore⟩ := List.forall_mem_cons.mp hvanish
        -- Behind the head, the new left side of the split stands between `X` and `Y`.
        have hnew : g.factor.IndirectCorner X p.left :=
          ⟨[head], [], hsplit.head_mem, by simpa using hhead, by simp⟩
        have hrest : (p.left, before ++ Y :: after) ∈ g.factor.rules := by
          have hmem := hsplit.suffix_mem hsuffix
          cases before <;> exact hmem
        have hY : Y ≠ p.left := by
          rintro rfl
          obtain ⟨name, hname⟩ := hsplit.exists_left_eq
          have hold := hnamed _ (List.mem_append_right _ List.mem_cons_self)
          refine hg.left_notMem_of_isSplit hsplit (hold.resolve_left ?_)
          simp [hname]
        exact .head hnew (.single ⟨before, after, hrest, hbefore, fun _ => hY⟩)

/-! ### No cycle is made -/

/-- From an old symbol a pass leads to an indirect left corner of before, or behind the head of a
split to its new left side. -/
theorem indirectCorner_of_factor (hg : g.WellFormed) {X Y : Symbol} (hX : X ∈ g.symbols.named)
    (h : g.factor.IndirectCorner X Y) :
    g.IndirectCorner X Y ∨ ∃ head suffixes p, g.IsSplit X head suffixes p ∧ g.Vanishes head ∧
      Y = p.left := by
  obtain ⟨before, after, hrule, hbefore, hne⟩ := h
  rcases mem_rules_factor hrule with hold | ⟨head, suffixes, p, hsplit, heq⟩ |
    ⟨left, head, suffixes, p, hsplit, rfl, -⟩
  · refine .inl ⟨before, after, hold, fun s hs => ?_, hne⟩
    have hnamed := hg.mem_named _ hold s (List.mem_append_left _ hs)
    exact (hg.keeps_factor.vanishes_iff hnamed).mp (hbefore s hs)
  · rcases List.append_eq_cons_iff.mp heq with ⟨rfl, hrest⟩ | ⟨before, rfl, hrest⟩
    · obtain ⟨suffix, hsuffix⟩ := List.exists_mem_of_ne_nil _ hsplit.suffixes_ne_nil
      cases hrest
      exact .inl ⟨[], suffix, hsplit.rule_mem suffix hsuffix, by simp, hne⟩
    · have hhead := (hg.mem_named_of_isSplit hsplit).1
      have hvanishes := (hg.keeps_factor.vanishes_iff (.inr hhead)).mp
        (hbefore head List.mem_cons_self)
      have hY : Y ∈ [p.left] := hrest ▸ List.mem_append_right _ List.mem_cons_self
      exact .inr ⟨head, suffixes, p, hsplit, hvanishes, List.mem_singleton.mp hY⟩
  · exact absurd hX (hg.left_notMem_of_isSplit hsplit)

theorem IsSplit.exists_leads (hg : g.WellFormed) {left head Y : Symbol}
    {suffixes : List (List Symbol)} {p : Production} (hsplit : g.IsSplit left head suffixes p)
    (hY : Y ≠ .epsilon) (h : g.factor.LeftCorner p.left Y) :
    ∃ suffix ∈ suffixes, g.Leads suffix Y ∧ Y ∈ g.symbols.named := by
  obtain ⟨a, hrule, hleads⟩ := h
  have ha := hg.factor.mem_alternatives_of_rule hsplit.mem hrule
  rw [hsplit.alternatives] at ha
  obtain ⟨suffix, hsuffix, rfl⟩ := List.mem_map.mp ha
  have hnamed := (hg.mem_named_of_isSplit hsplit).2 suffix hsuffix
  rw [← leads_visible_iff hY, visible_orEpsilon, leads_visible_iff hY,
    hg.keeps_factor.leads_iff hnamed] at hleads
  exact ⟨suffix, hsuffix, hleads, (hnamed Y hleads.mem).resolve_left hY⟩

theorem IsSplit.indirectCorner {left head Y : Symbol} {suffixes : List (List Symbol)}
    {p : Production} (hsplit : g.IsSplit left head suffixes p) (hhead : g.Vanishes head)
    {suffix : List Symbol} (hsuffix : suffix ∈ suffixes) (h : g.Leads suffix Y) :
    g.IndirectCorner left Y := by
  obtain ⟨before, after, rfl, hbefore⟩ := h
  exact ⟨head :: before, after, hsplit.rule_mem _ hsuffix,
    List.forall_mem_cons.mpr ⟨hhead, hbefore⟩, by simp⟩

/-- An old symbol that is reached through indirect left corners of before, or the new left side of a
split behind a head that vanishes, whose old left side is reached so. -/
def ReachesUnfactored (g : Grammar) (X Y : Symbol) : Prop :=
  Y ∈ g.symbols.named ∧ Relation.ReflTransGen g.IndirectCorner X Y ∨
    ∃ left head suffixes p, g.IsSplit left head suffixes p ∧ g.Vanishes head ∧ Y = p.left ∧
      Relation.ReflTransGen g.IndirectCorner X left

/-- One indirect left corner further: an old symbol has been one edge further before. -/
theorem ReachesUnfactored.indirectCorner (hg : g.WellFormed) {X Y Z : Symbol}
    (h : g.ReachesUnfactored X Y) (hYZ : g.factor.IndirectCorner Y Z) (hZ : Z ≠ .epsilon) :
    g.ReachesUnfactored X Z ∧
      (Z ∈ g.symbols.named → Relation.TransGen g.IndirectCorner X Z) := by
  rcases h with ⟨hY, hXY⟩ | ⟨left, head, suffixes, p, hsplit, hhead, rfl, hXleft⟩
  · rcases indirectCorner_of_factor hg hY hYZ with hold | ⟨head, suffixes, p, hsplit, hhead, rfl⟩
    · exact ⟨.inl ⟨hold.right_mem_named hg hZ, hXY.tail hold⟩, fun _ => .tail' hXY hold⟩
    · exact ⟨.inr ⟨Y, head, suffixes, p, hsplit, hhead, rfl, hXY⟩,
        fun hmem => absurd hmem (hg.left_notMem_of_isSplit hsplit)⟩
  · obtain ⟨suffix, hsuffix, hleads, hnamed⟩ := hsplit.exists_leads hg hZ hYZ.leftCorner
    have hleftZ := hsplit.indirectCorner hhead hsuffix hleads
    exact ⟨.inl ⟨hnamed, hXleft.tail hleftZ⟩, fun _ => .tail' hXleft hleftZ⟩

theorem reachesUnfactored_of_reflTransGen (hg : g.WellFormed) {X Y : Symbol}
    (hX : X ∈ g.symbols.named) (h : Relation.ReflTransGen g.factor.IndirectCorner X Y)
    (hY : Y ≠ .epsilon) : g.ReachesUnfactored X Y := by
  induction h with
  | refl => exact .inl ⟨hX, .refl⟩
  | tail _ hYZ ih =>
      have hreaches := ih (hYZ.leftCorner.left_ne_epsilon hg.factor)
      exact (hreaches.indirectCorner hg hYZ hY).1

/-- A cycle passes through an old symbol. -/
theorem exists_old_transGen_factor (hg : g.WellFormed) {A : Symbol}
    (h : Relation.TransGen g.factor.IndirectCorner A A) :
    ∃ B ∈ g.symbols.named, Relation.TransGen g.factor.IndirectCorner B B := by
  obtain ⟨B, hAB, hBA⟩ := Relation.TransGen.head'_iff.mp h
  have hBB : Relation.TransGen g.factor.IndirectCorner B B := .tail' hBA hAB
  obtain ⟨C, hBC, -⟩ := Relation.TransGen.head'_iff.mp hBB
  have hB := hBC.leftCorner.left_ne_epsilon hg.factor
  obtain ⟨a, hrule, -⟩ := hAB.leftCorner
  rcases mem_rules_factor hrule with hold | ⟨head, suffixes, p, hsplit, -⟩ |
    ⟨left, head, suffixes, p, hsplit, rfl, -⟩
  · exact ⟨A, (mem_nonTerminals.mp (hg.left_mem_of_rule hold)).1, h⟩
  · exact ⟨A, hg.left_mem_named_of_isSplit hsplit, h⟩
  · obtain ⟨-, -, -, hnamed⟩ := hsplit.exists_leads hg hB hAB.leftCorner
    exact ⟨B, hnamed, hBB⟩

/-- A cycle after a pass has been one before. -/
theorem exists_transGen_of_factor (hg : g.WellFormed) {A : Symbol}
    (h : Relation.TransGen g.factor.IndirectCorner A A) :
    ∃ B, Relation.TransGen g.IndirectCorner B B := by
  obtain ⟨B, hB, hBB⟩ := exists_old_transGen_factor hg h
  obtain ⟨C, hBC, hCB⟩ := Relation.TransGen.tail'_iff.mp hBB
  obtain ⟨D, hBD, -⟩ := Relation.TransGen.head'_iff.mp hBB
  have hne := hBD.leftCorner.left_ne_epsilon hg.factor
  have hreaches := reachesUnfactored_of_reflTransGen hg hB hBC
    (hCB.leftCorner.left_ne_epsilon hg.factor)
  exact ⟨B, (hreaches.indirectCorner hg hCB hne).2 hB⟩

/-! ### The answer of the search -/

theorem WellFormed.isSome_indirectCycle?_factor (hg : g.WellFormed) :
    g.factor.indirectCycle?.isSome = g.indirectCycle?.isSome := by
  rw [Bool.eq_iff_iff, hg.factor.isSome_indirectCycle?_iff, hg.isSome_indirectCycle?_iff]
  constructor
  · rintro ⟨A, hA⟩
    exact exists_transGen_of_factor hg hA
  · rintro ⟨A, hA⟩
    exact ⟨A, Relation.TransGen.closed (fun _ _ h => h.transGen_factor hg) _ _ hA⟩

/-- Passes neither make nor hide indirect left recursion. -/
theorem WellFormed.isSome_indirectCycle?_iterate_factor (hg : g.WellFormed) (n : ℕ) :
    (Grammar.factor^[n] g).indirectCycle?.isSome = g.indirectCycle?.isSome := by
  induction n generalizing g with
  | zero => rfl
  | succ n ih => exact (ih hg.factor).trans hg.isSome_indirectCycle?_factor

end Grammar

end Predictive
