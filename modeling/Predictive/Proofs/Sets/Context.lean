import Predictive.Proofs.Sets.Follow

/-!
# What FOLLOW says about derivations

`CanFollow B s` says that the terminal `s` can come directly after `B` in a form that some left side
derives, and for the end marker that `B` can end a form that the start symbol derives. FOLLOW holds
exactly these symbols (`contains_followFrom_iff`).

A terminal is looked for in the forms of every left side, not only in those of the start symbol: the
search goes over all productions, whether a derivation from the start symbol gets to them or not. It
makes no difference when every left side is `Reachable`.

That no symbol is missing is no induction of its own. A left side by itself fits in front of
nothing, the start symbol fits in front of the end marker, and derivations keep what fits.
-/

namespace Predictive

namespace Grammar

/-- What can come next after a symbol in a form that the grammar derives. -/
def CanFollow (g : Grammar) (B : Symbol) : Symbol → Prop
  | .endMarker => ∃ start α, g.start? = some start ∧ g.Derives [start] (α ++ [B])
  | .terminal name =>
    ∃ p ∈ g.productions, ∃ α β, g.Derives [p.left] (α ++ B :: .terminal name :: β)
  | _ => False

def Reachable (g : Grammar) (A : Symbol) : Prop :=
  ∃ start α β, g.start? = some start ∧ g.Derives [start] (α ++ A :: β)

variable {g : Grammar} {first follow : SymbolSets}

/-! ### No symbol too many -/

/-- What can follow a symbol can follow the last symbol of a form that is derived from it. -/
theorem CanFollow.of_derives {A B s : Symbol} (h : g.CanFollow A s) {γ : List Symbol}
    (hγ : g.Derives [A] (γ ++ [B])) : g.CanFollow B s := by
  cases s with
  | endMarker =>
      obtain ⟨start, α, hstart, hα⟩ := h
      refine ⟨start, α ++ γ, hstart, ?_⟩
      rw [List.append_assoc]
      exact hα.trans ((Derives.refl g α).append hγ)
  | terminal name =>
      obtain ⟨p, hp, α, β, hα⟩ := h
      have hbody := ((Derives.refl g α).append hγ).append (.refl g (.terminal name :: β))
      refine ⟨p, hp, α ++ γ, β, ?_⟩
      simp only [List.append_assoc, List.singleton_append] at hα hbody ⊢
      exact hα.trans hbody
  | epsilon => exact h.elim
  | nonTerminal name => exact h.elim

theorem derives_of_mem_occurrences (hg : g.WellFormed) {o : Occurrence}
    (ho : o ∈ g.occurrences) :
    ∃ before, g.Derives [o.left] (visible before ++ o.symbol :: visible o.rest) := by
  obtain ⟨hsymbol, before, hrule⟩ := exists_rule_of_mem_occurrences ho
  obtain ⟨name, hname⟩ := hg.exists_left_eq hrule
  dsimp only at hname
  rw [hname] at hrule ⊢
  have hne : o.symbol ≠ .epsilon := by
    intro heq
    rw [heq] at hsymbol
    cases hsymbol
  have hderives := Derives.of_rule hrule
  rw [visible_append, visible_cons hne] at hderives
  exact ⟨before, hderives⟩

def FollowSound (g : Grammar) (follow : SymbolSets) : Prop :=
  ∀ B s, follow.contains B s = true → g.CanFollow B s

theorem FollowSound.followUpdate (hg : g.WellFormed) (hfirst : g.FirstSound first)
    (h : g.FollowSound follow) {o : Occurrence} (ho : o ∈ g.occurrences) :
    g.FollowSound (followUpdate first o follow).1 := by
  intro B s hs
  rcases (contains_followUpdate _ _ _ _ _).mp hs with hold | ⟨rfl, hnew⟩
  · exact h B s hold
  · obtain ⟨before, hderives⟩ := derives_of_mem_occurrences hg ho
    obtain ⟨-, pre, hrule⟩ := exists_rule_of_mem_occurrences ho
    have hend : .endMarker ∉ o.rest := fun hmem =>
      hg.endMarker_notMem hrule (List.mem_append_right _ (List.mem_cons_of_mem _ hmem))
    rcases hnew with ⟨hnext, hne⟩ | ⟨hvanishes, hleft⟩
    · have hbegin := hfirst.mem_firstOf hend hnext
      cases s with
      | terminal name =>
          obtain ⟨β, hβ⟩ := hbegin
          obtain ⟨p, hp, hpleft, -⟩ := (mem_rules_iff g _ _).mp hrule
          refine ⟨p, hp, visible before, β, ?_⟩
          rw [hpleft]
          exact hderives.trans ((Derives.refl g _).append ((Derives.refl g [_]).append hβ))
      | epsilon => exact absurd rfl hne
      | endMarker => exact hbegin.elim
      | nonTerminal name => exact hbegin.elim
    · have hnil : g.Derives (visible o.rest) [] := hfirst.mem_firstOf hend hvanishes
      apply (h o.left s hleft).of_derives
      exact hderives.trans ((Derives.refl g _).append ((Derives.refl g [_]).append hnil))

theorem followSound_followStart {start : Symbol} (hstart : g.start? = some start) :
    g.FollowSound (g.followStart start) := by
  intro B s hs
  obtain ⟨rfl, rfl⟩ := contains_followStart.mp hs
  exact ⟨B, [], hstart, .refl g _⟩

theorem followSound_followFrom (hg : g.WellFormed) (hfirst : g.FirstSound first)
    {start : Symbol} (hstart : g.start? = some start) :
    g.FollowSound (g.followFrom first (g.followStart start)).value :=
  untilStable_of_step _ _ _ _ (fun _ hfollow => sweep_of_update
    (fun _ ho _ hsets => hsets.followUpdate hg hfirst ho) hfollow) (followSound_followStart hstart)

/-! ### No symbol missing -/

theorem FollowClosed.contains_of_canFollow (h : g.FollowClosed first follow)
    (hfirst : g.FirstClosed first)
    (hstart : ∀ start, g.start? = some start → follow.contains start .endMarker = true)
    {name : String} {s : Symbol} (hs : g.CanFollow (.nonTerminal name) s) :
    follow.contains (.nonTerminal name) s = true := by
  cases s with
  | endMarker =>
      obtain ⟨start, α, heq, hα⟩ := hs
      have hfits : Fits first follow [.endMarker] [start] :=
        fits_singleton_endMarker (hstart start heq)
      have hform := h.fits_of_derives hfirst hα hfits
      exact hform name [] (List.suffix_append α _) _ (List.mem_singleton.mpr rfl) (by simp)
  | terminal t =>
      obtain ⟨p, -, α, β, hα⟩ := hs
      have hfits : Fits first follow [] [p.left] :=
        fits_singleton fun s hs hne => absurd (List.mem_singleton.mp hs) hne
      have hform := h.fits_of_derives hfirst hα hfits
      exact hform name (.terminal t :: β) (List.suffix_append α _) _ List.mem_cons_self (by simp)
  | epsilon => exact hs.elim
  | nonTerminal other => exact hs.elim

/-! ### The FOLLOW sets of a grammar -/

theorem Reachable.exists_derives {A : Symbol} (h : g.Reachable A) {α β γ : List Symbol}
    (hA : g.Derives [A] (α ++ (β ++ γ))) :
    ∃ start α' γ', g.start? = some start ∧ g.Derives [start] (α' ++ (β ++ γ')) := by
  obtain ⟨start, before, after, hstart, hform⟩ := h
  have hbody := ((Derives.refl g before).append hA).append (.refl g after)
  refine ⟨start, before ++ α, γ ++ after, hstart, ?_⟩
  simp only [List.append_assoc, List.singleton_append] at hform hbody ⊢
  exact hform.trans hbody

/-- A form of two or more symbols is derived from left sides only. -/
theorem exists_left_eq_of_derives {A : Symbol} (hA : A ∈ g.nonTerminals) {γ : List Symbol}
    (hγ : g.Derives [A] γ) (hlength : 2 ≤ γ.length) : ∃ p ∈ g.productions, p.left = A := by
  obtain ⟨name, rfl⟩ := exists_eq_of_mem_nonTerminals hA
  rcases derives_nonTerminal_iff.mp hγ with rfl | ⟨a, hrule, -⟩
  · simp at hlength
  · obtain ⟨p, hp, hleft, -⟩ := (mem_rules_iff g _ _).mp hrule
    exact ⟨p, hp, hleft⟩

theorem contains_followFrom_iff (hg : g.WellFormed) (hsound : g.FirstSound first)
    (hclosed : g.FirstClosed first) {start : Symbol} (hstart : g.start? = some start)
    {name : String} {s : Symbol} :
    (g.followFrom first (g.followStart start)).value.contains (.nonTerminal name) s = true ↔
      g.CanFollow (.nonTerminal name) s := by
  constructor
  · exact followSound_followFrom hg hsound hstart _ s
  · exact (g.followClosed_followFrom first _).contains_of_canFollow hclosed
      (endMarker_mem_followFrom first hstart)

theorem followSets_of_validate (hv : g.validate = .ok ()) {start : Symbol}
    (hstart : g.start? = some start) (first : SymbolSets) :
    g.followSets first = .ok (g.followFrom first (g.followStart start)) := by
  rw [followSets, hv, hstart]
  rfl

/-- FOLLOW is what can come next in a form, for every non-terminal. When the start symbol gets to
every production, its forms are enough. -/
theorem followSets_canFollow_iff {g : Grammar} (hg : g.Prepared) (hv : g.validate = .ok ()) :
    ∃ first follow, g.firstSets = .ok first ∧ g.followSets first.value = .ok follow ∧
      (∀ B ∈ g.nonTerminals, ∀ s, follow.value.contains B s = true ↔ g.CanFollow B s) ∧
      ((∀ p ∈ g.productions, g.Reachable p.left) → ∀ B ∈ g.nonTerminals, ∀ name,
        follow.value.contains B (.terminal name) = true ↔
          ∃ start α β, g.start? = some start ∧
            g.Derives [start] (α ++ B :: .terminal name :: β)) := by
  obtain ⟨start, hstart⟩ := exists_start_of_validate hv
  have hsound := (g.firstSound_ofKeys g.nonTerminals).firstFrom hg.wellFormed
  have hexact : ∀ B ∈ g.nonTerminals, ∀ s,
      (g.followFrom (g.firstFrom (.ofKeys g.nonTerminals)).value
        (g.followStart start)).value.contains B s = true ↔ g.CanFollow B s := by
    intro B hB s
    obtain ⟨name, rfl⟩ := exists_eq_of_mem_nonTerminals hB
    exact contains_followFrom_iff hg.wellFormed hsound (g.firstClosed_firstFrom _) hstart
  refine ⟨_, _, firstSets_of_validate hv, followSets_of_validate hv hstart _, hexact, ?_⟩
  intro hreachable B hB name
  rw [hexact B hB]
  constructor
  · rintro ⟨p, hp, α, β, hα⟩
    exact (hreachable p hp).exists_derives (β := [B, .terminal name]) hα
  · rintro ⟨start, α, β, hstart, hα⟩
    have hlength : 2 ≤ (α ++ B :: .terminal name :: β).length := by
      simp only [List.length_append, List.length_cons]
      omega
    obtain ⟨p, hp, rfl⟩ :=
      exists_left_eq_of_derives (hg.wellFormed.start_mem start hstart) hα hlength
    exact ⟨p, hp, α, β, hα⟩

/-- A left side that comes back behind a symbol that can vanish. -/
theorem followSets_canFollow_iff_vanishing :
    let g := (load .compact "S -> A S b | ε\nA -> a | ε").1
    g.validate = .ok () ∧ (∀ p ∈ g.productions, g.Reachable p.left) ∧
      ∃ first follow, g.firstSets = .ok first ∧ g.followSets first.value = .ok follow ∧
        (∀ B ∈ g.nonTerminals, ∀ s, follow.value.contains B s = true ↔ g.CanFollow B s) ∧
        ∀ B ∈ g.nonTerminals, ∀ name, follow.value.contains B (.terminal name) = true ↔
          ∃ start α β, g.start? = some start ∧
            g.Derives [start] (α ++ B :: .terminal name :: β) := by
  have hvalidate : (load .compact "S -> A S b | ε\nA -> a | ε").1.validate = .ok () := by cbv
  have hlefts : (load .compact "S -> A S b | ε\nA -> a | ε").1.productions.map Production.left =
      [.nonTerminal "S", .nonTerminal "A"] := by cbv
  have hstart : (load .compact "S -> A S b | ε\nA -> a | ε").1.start? =
      some (.nonTerminal "S") := by cbv
  have hrule : (load .compact "S -> A S b | ε\nA -> a | ε").1.rules.contains
      (.nonTerminal "S", [.nonTerminal "A", .nonTerminal "S", .terminal "b"]) = true := by cbv
  intro g
  have hreachable : ∀ p ∈ g.productions, g.Reachable p.left := by
    intro p hp
    have hleft := List.mem_map_of_mem (f := Production.left) hp
    rw [hlefts] at hleft
    rcases List.mem_cons.mp hleft with heq | hleft
    · exact ⟨_, [], [], hstart, heq ▸ .refl g _⟩
    · rw [List.mem_singleton.mp hleft]
      exact ⟨_, [], [.nonTerminal "S", .terminal "b"], hstart,
        .of_rule (List.contains_iff_mem.mp hrule)⟩
  obtain ⟨first, follow, hfirst, hfollow, hexact, hforms⟩ :=
    followSets_canFollow_iff (.load .compact _) hvalidate
  exact ⟨hvalidate, hreachable, first, follow, hfirst, hfollow, hexact, hforms hreachable⟩

end Grammar

end Predictive
