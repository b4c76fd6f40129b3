import Predictive.Proofs.Sets.First
import Predictive.Sets.Follow

/-!
# What FOLLOW takes in

At the end of the search FOLLOW is closed under the rules. `Fits after α` says what this gives to a
form `α` with the symbols `after` behind it: every symbol that can come next after a non-terminal of
`α` is in the FOLLOW of that non-terminal. Every alternative fits when nothing comes behind it, and
it fits in front of each symbol that is in the FOLLOW of its left side. So a derivation leads from
forms that fit to forms that fit only (`FollowClosed.fits_of_derives`).

That FOLLOW takes in no more than what can follow in a derivation is not needed for a parser to be
correct. It is enough that its members are columns of the table (`Lookaheads`).
-/

namespace Predictive

theorem Occurrence.mem_inSequence_of_suffix {left s : Symbol} {rest sequence : List Symbol}
    (hs : s.isNonTerminal = true) (h : s :: rest <:+ sequence) :
    ⟨left, s, rest⟩ ∈ inSequence left sequence := by
  induction sequence with
  | nil => cases List.suffix_nil.mp h
  | cons x sequence ih =>
      rw [inSequence]
      rcases List.suffix_cons_iff.mp h with heq | h
      · cases heq
        rw [if_pos hs]
        exact List.mem_cons_self
      · split
        · exact List.mem_cons_of_mem _ (ih h)
        · exact ih h

theorem Occurrence.suffix_of_mem_inSequence {left : Symbol} {sequence : List Symbol}
    {o : Occurrence} (h : o ∈ inSequence left sequence) :
    o.left = left ∧ o.symbol.isNonTerminal = true ∧ o.symbol :: o.rest <:+ sequence := by
  induction sequence with
  | nil => cases h
  | cons x sequence ih =>
      rw [inSequence] at h
      split at h
      · next hx =>
          rcases List.mem_cons.mp h with rfl | h
          · exact ⟨rfl, hx, List.suffix_refl _⟩
          · obtain ⟨hleft, hsymbol, hsuffix⟩ := ih h
            exact ⟨hleft, hsymbol, hsuffix.trans (List.suffix_cons x sequence)⟩
      · obtain ⟨hleft, hsymbol, hsuffix⟩ := ih h
        exact ⟨hleft, hsymbol, hsuffix.trans (List.suffix_cons x sequence)⟩

namespace Grammar

variable {g : Grammar} {first follow : SymbolSets}

theorem exists_rule_of_mem_occurrences {o : Occurrence} (ho : o ∈ g.occurrences) :
    o.symbol.isNonTerminal = true ∧
      ∃ before, (o.left, before ++ o.symbol :: o.rest) ∈ g.rules := by
  obtain ⟨⟨left, a⟩, hrule, hocc⟩ := List.mem_flatMap.mp ho
  obtain ⟨hleft, hsymbol, before, hbefore⟩ := Occurrence.suffix_of_mem_inSequence hocc
  refine ⟨hsymbol, before, ?_⟩
  rw [hbefore, hleft]
  exact hrule

theorem contains_followUpdate (first : SymbolSets) (o : Occurrence) (follow : SymbolSets)
    (k s : Symbol) :
    (followUpdate first o follow).1.contains k s = true ↔
      follow.contains k s = true ∨ k = o.symbol ∧
        (s ∈ firstOf first o.rest ∧ s ≠ .epsilon ∨
          .epsilon ∈ firstOf first o.rest ∧ follow.contains o.left s = true) := by
  unfold followUpdate
  dsimp only
  split
  · next h =>
      rw [SymbolSets.contains_extend, SymbolSets.contains_extend, ← SymbolSets.contains_iff,
        SymbolSets.contains_extend, mem_withoutEpsilon,
        and_iff_right (List.contains_iff_mem.mp h)]
      tauto
  · next h =>
      have hvanishes : .epsilon ∉ firstOf first o.rest := fun hmem =>
        h (List.contains_iff_mem.mpr hmem)
      rw [SymbolSets.contains_extend, mem_withoutEpsilon]
      simp only [hvanishes, false_and, or_false]

theorem followUpdate_mono (first : SymbolSets) (o : Occurrence) {a b : SymbolSets} (h : a ≤ b) :
    (followUpdate first o a).1 ≤ (followUpdate first o b).1 := by
  intro k s hks
  rw [contains_followUpdate] at hks ⊢
  exact hks.imp (h k s) fun hks => ⟨hks.1, hks.2.imp_right fun hafter =>
    ⟨hafter.1, h _ _ hafter.2⟩⟩

/-! ### Closed sets -/

/-- The sets take in what comes inside an alternative after an occurrence, and where nothing needs
to come, what follows the left side. -/
structure FollowClosed (g : Grammar) (first follow : SymbolSets) : Prop where
  inside : ∀ o ∈ g.occurrences, ∀ s ∈ firstOf first o.rest, s ≠ .epsilon →
    follow.contains o.symbol s = true
  behind : ∀ o ∈ g.occurrences, .epsilon ∈ firstOf first o.rest → ∀ s,
    follow.contains o.left s = true → follow.contains o.symbol s = true

theorem followClosed_followPass (h : (g.followPass first follow).2 = false) :
    g.FollowClosed first (g.followPass first follow).1 := by
  have hle : ∀ o ∈ g.occurrences, (followUpdate first o (g.followPass first follow).1).1 ≤
      (g.followPass first follow).1 := fun _ ho =>
    SymbolSets.update_sweep_le (grows_followUpdate first) (fun o _ _ => followUpdate_mono first o)
      h ho
  constructor
  · intro o ho s hs hne
    exact hle o ho _ _ ((contains_followUpdate _ _ _ _ _).mpr (.inr ⟨rfl, .inl ⟨hs, hne⟩⟩))
  · intro o ho hvanishes s hs
    exact hle o ho _ _ ((contains_followUpdate _ _ _ _ _).mpr (.inr ⟨rfl, .inr ⟨hvanishes, hs⟩⟩))

theorem exists_followPass_iterate_eq (g : Grammar) (first start : SymbolSets) :
    ∃ n, g.followPass first ((fun follow => (g.followPass first follow).1)^[n] start) =
      ((g.followFrom first start).value, false) :=
  exists_step_iterate_eq _ _ _ _

theorem followClosed_followFrom (g : Grammar) (first start : SymbolSets) :
    g.FollowClosed first (g.followFrom first start).value := by
  obtain ⟨n, hn⟩ := g.exists_followPass_iterate_eq first start
  have hclosed := followClosed_followPass (congrArg Prod.snd hn)
  rwa [hn] at hclosed

theorem le_followFrom (g : Grammar) (first start : SymbolSets) :
    start ≤ (g.followFrom first start).value :=
  untilStable_of_step _ _ _ _
    (fun _ h => le_trans h (g.grows_followPass first _).le) (le_refl start)

theorem contains_followStart {start k s : Symbol} :
    (g.followStart start).contains k s = true ↔ k = start ∧ s = .endMarker := by
  rw [followStart, SymbolSets.contains_extend, SymbolSets.contains_ofKeys, List.mem_singleton]
  simp

theorem endMarker_mem_followFrom (first : SymbolSets) {start : Symbol}
    (hstart : g.start? = some start) : ∀ other, g.start? = some other →
      (g.followFrom first (g.followStart start)).value.contains other .endMarker = true := by
  intro other hother
  obtain rfl : start = other := Option.some.inj (hstart.symm.trans hother)
  exact g.le_followFrom _ _ _ _ (contains_followStart.mpr ⟨rfl, rfl⟩)

/-! ### Forms that fit -/

/-- What can come next after a non-terminal of a form, with given symbols behind the form, is in
its FOLLOW. -/
def Fits (first follow : SymbolSets) (after α : List Symbol) : Prop :=
  ∀ name rest, .nonTerminal name :: rest <:+ α → ∀ s ∈ firstOf first (rest ++ after),
    s ≠ .epsilon → follow.contains (.nonTerminal name) s = true

theorem Fits.of_suffix {after α β : List Symbol} (h : Fits first follow after α) (hβ : β <:+ α) :
    Fits first follow after β :=
  fun name rest hrest => h name rest (hrest.trans hβ)

theorem fits_singleton {after : List Symbol} {left : Symbol}
    (h : ∀ s ∈ firstOf first after, s ≠ .epsilon → follow.contains left s = true) :
    Fits first follow after [left] := by
  intro name rest hrest s hs hne
  rcases List.suffix_cons_iff.mp hrest with heq | hnil
  · obtain ⟨rfl, rfl⟩ := List.cons.inj heq
    exact h s hs hne
  · cases List.suffix_nil.mp hnil

theorem fits_singleton_endMarker {left : Symbol} (h : follow.contains left .endMarker = true) :
    Fits first follow [.endMarker] [left] := by
  apply fits_singleton
  intro s hs _
  obtain rfl := List.mem_singleton.mp hs
  exact h

theorem exists_suffix_of_suffix_visible {α rest : List Symbol} {s : Symbol}
    (h : s :: rest <:+ visible α) : ∃ rest', s :: rest' <:+ α ∧ visible rest' = rest := by
  obtain ⟨β, hβ, heq⟩ := List.suffix_filter_iff.mp h
  obtain ⟨pre, rest', rfl, -, -, hrest⟩ := List.filter_eq_cons_iff.mp heq.symm
  exact ⟨rest', (List.suffix_append pre _).trans hβ, hrest⟩

/-- A form fits when each of its parts does, the first one in front of the second. -/
theorem fits_append_iff {after α β : List Symbol} :
    Fits first follow after (α ++ β) ↔
      Fits first follow (β ++ after) α ∧ Fits first follow after β := by
  constructor
  · intro h
    refine ⟨?_, h.of_suffix (List.suffix_append α β)⟩
    rintro name rest ⟨before, rfl⟩ s hs hne
    rw [← List.append_assoc] at hs
    refine h name (rest ++ β) ⟨before, ?_⟩ s hs hne
    simp
  · rintro ⟨hα, hβ⟩ name rest ⟨before, hbefore⟩ s hs hne
    rcases List.append_eq_append_iff.mp hbefore with ⟨part, rfl, hpart⟩ | ⟨part, -, hpart⟩
    · cases part with
      | nil => exact hβ name rest ⟨[], hpart⟩ s hs hne
      | cons x part =>
          rw [List.cons_append] at hpart
          obtain ⟨rfl, rfl⟩ := List.cons.inj hpart
          rw [List.append_assoc] at hs
          exact hα name part (List.suffix_append _ _) s hs hne
    · exact hβ name rest ⟨part, hpart.symm⟩ s hs hne

/-- A form that fits also fits in front of symbols that can begin with nothing else. -/
theorem Fits.of_after {after after' α : List Symbol} (h : Fits first follow after α)
    (hafter : ∀ s ∈ firstOf first after', s ∈ firstOf first after) :
    Fits first follow after' α := by
  intro name rest hrest s hs hne
  refine h name rest hrest s ?_ hne
  rw [mem_firstOf_append] at hs ⊢
  exact hs.imp_right fun hs => ⟨hs.1, hafter s hs.2⟩

namespace FollowClosed

theorem fits (h : g.FollowClosed first follow) {left : Symbol} {a : Alternative}
    (hrule : (left, a) ∈ g.rules) {after : List Symbol}
    (hleft : ∀ s ∈ firstOf first after, s ≠ .epsilon → follow.contains left s = true) :
    Fits first follow after (visible a) := by
  intro name rest hrest s hs hne
  obtain ⟨rest', hsuffix, rfl⟩ := exists_suffix_of_suffix_visible hrest
  have ho : ⟨left, .nonTerminal name, rest'⟩ ∈ g.occurrences :=
    List.mem_flatMap.mpr ⟨(left, a), hrule, Occurrence.mem_inSequence_of_suffix rfl hsuffix⟩
  rcases mem_firstOf_append.mp hs with ⟨hinside, -⟩ | ⟨hvanishes, hbehind⟩
  · rw [firstOf_visible] at hinside
    exact h.inside _ ho s hinside hne
  · rw [firstOf_visible] at hvanishes
    exact h.behind _ ho hvanishes s (hleft s hbehind hne)

/-- A step of a derivation leads from a form that fits to one that fits. -/
theorem fits_of_rewrites (h : g.FollowClosed first follow) (hfirst : g.FirstClosed first)
    {after α β : List Symbol} (hstep : g.Rewrites α β) (hα : Fits first follow after α) :
    Fits first follow after β := by
  cases hstep with
  | @expand before rest name a hrule =>
      obtain ⟨hbefore, hbody⟩ := fits_append_iff.mp hα
      obtain ⟨hleft, hrest⟩ := fits_append_iff (α := [.nonTerminal name]).mp hbody
      refine fits_append_iff.mpr ⟨hbefore.of_after fun s hs => ?_, fits_append_iff.mpr ⟨?_, hrest⟩⟩
      · have hback := Rewrites.append_right (.expand [] rest hrule) after
        exact hfirst.mem_firstOf_of_rewrites hback hs
      · apply h.fits hrule
        intro s hs hne
        exact hleft name [] (List.suffix_refl _) s hs hne

theorem fits_of_derives (h : g.FollowClosed first follow) (hfirst : g.FirstClosed first)
    {after α β : List Symbol} (hderives : g.Derives α β) (hα : Fits first follow after α) :
    Fits first follow after β := by
  induction hderives with
  | refl => exact hα
  | tail _ hstep ih => exact h.fits_of_rewrites hfirst hstep ih

end FollowClosed

/-! ### Members -/

def Lookaheads (g : Grammar) (follow : SymbolSets) : Prop :=
  ∀ k s, follow.contains k s = true → s ∈ g.terminals ++ [.endMarker]

theorem Lookaheads.followUpdate (hg : g.WellFormed) (hfirst : g.FirstSound first)
    (h : g.Lookaheads follow) {o : Occurrence} (ho : o ∈ g.occurrences) :
    g.Lookaheads (followUpdate first o follow).1 := by
  intro k s hks
  rcases (contains_followUpdate _ _ _ _ _).mp hks with hold | ⟨-, ⟨hs, hne⟩ | ⟨-, hold⟩⟩
  · exact h k s hold
  · obtain ⟨⟨left, a⟩, hrule, hocc⟩ := List.mem_flatMap.mp ho
    have hrest := (Occurrence.mem_inSequence hocc).2.2
    have hbegin := hfirst.mem_firstOf (fun hmem => hg.endMarker_notMem hrule (hrest hmem)) hs
    exact List.mem_append_left _ (hbegin.mem_terminals hg
      (fun s hs => hg.mem_named _ hrule s (hrest hs)) hne)
  · exact h _ s hold

theorem lookaheads_followFrom (hg : g.WellFormed) (hfirst : g.FirstSound first)
    (start : Symbol) : g.Lookaheads (g.followFrom first (g.followStart start)).value := by
  refine untilStable_of_step _ _ _ _ (fun _ hfollow => sweep_of_update
    (fun _ ho _ hsets => hsets.followUpdate hg hfirst ho) hfollow) ?_
  intro k s hks
  exact List.mem_append_right _ (List.mem_singleton.mpr (contains_followStart.mp hks).2)

end Grammar

end Predictive
