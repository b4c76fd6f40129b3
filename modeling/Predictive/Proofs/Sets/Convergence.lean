import Mathlib.Order.Bounds.Defs
import Predictive.Proofs.Grammar.Defined
import Predictive.Proofs.Sets.Context

/-!
# Where the passes end

A FIRST pass and a FOLLOW pass only make the sets grow, and they never lead from sets below closed
ones to sets that are not. So the sets at the end of a search are the least closed ones above the
sets at its start, and they are the same for every start below them: a search may begin in the
middle (`Converges`). What the sets are in between depends on the order of the rules, as each update
sees the ones before it. Being closed does not: it speaks of each rule by itself. So the least
closed sets, and with them the ends of all searches, are the same for every order of the productions
and of their alternatives (`Rearranged`).

None of this needs to know what the sets mean for derivations.
-/

namespace Predictive

namespace SymbolSets

variable {pass : SymbolSets → SymbolSets × Bool} {start limit : SymbolSets}

def afterPasses (pass : SymbolSets → SymbolSets × Bool) (start : SymbolSets) (n : ℕ) :
    SymbolSets :=
  (fun sets => (pass sets).1)^[n] start

/-- Repeated passes only add members. One of them reports no change, none does so unless all sets
have kept their members, and then these are the members of the limit. -/
structure Converges (pass : SymbolSets → SymbolSets × Bool) (start limit : SymbolSets) : Prop where
  grows : ∀ n, afterPasses pass start n ≤ afterPasses pass start (n + 1)
  unchanged_iff : ∀ n, (pass (afterPasses pass start n)).2 = false ↔
    ∀ k s, (afterPasses pass start (n + 1)).contains k s = (afterPasses pass start n).contains k s
  stops : ∃ n, (pass (afterPasses pass start n)).2 = false
  limit_eq : ∀ n, (pass (afterPasses pass start n)).2 = false →
    ∀ k s, (afterPasses pass start (n + 1)).contains k s = limit.contains k s

theorem extend_ofKeys_le {keys symbols : List Symbol} {key : Symbol} {sets : SymbolSets} :
    ((ofKeys keys).extend key symbols).1 ≤ sets ↔ ∀ s ∈ symbols, sets.contains key s = true := by
  constructor
  · intro h s hs
    exact h key s ((contains_extend _ _ _ _ _).mpr (.inr ⟨rfl, hs⟩))
  · intro h k s hks
    rcases (contains_extend _ _ _ _ _).mp hks with hnone | ⟨rfl, hs⟩
    · exact ofKeys_le keys sets k s hnone
    · exact h s hs

theorem afterPasses_succ (pass : SymbolSets → SymbolSets × Bool) (start : SymbolSets) (n : ℕ) :
    afterPasses pass start (n + 1) = (pass (afterPasses pass start n)).1 :=
  Function.iterate_succ_apply' _ n start

theorem le_afterPasses (hgrows : ∀ sets, Grows sets (pass sets)) (start : SymbolSets) (n : ℕ) :
    start ≤ afterPasses pass start n := by
  induction n with
  | zero => exact le_refl start
  | succ n ih =>
      rw [afterPasses_succ]
      exact le_trans ih (hgrows _).le

theorem afterPasses_le (hbelow : ∀ sets, sets ≤ limit → (pass sets).1 ≤ limit)
    (hstart : start ≤ limit) (n : ℕ) : afterPasses pass start n ≤ limit := by
  induction n with
  | zero => exact hstart
  | succ n ih =>
      rw [afterPasses_succ]
      exact hbelow _ ih

/-- Passes that stay below the limit converge to it when each pass without change ends above it. -/
theorem Converges.of_le (hgrows : ∀ sets, Grows sets (pass sets))
    (hbelow : ∀ sets, sets ≤ limit → (pass sets).1 ≤ limit)
    (habove : ∀ sets, start ≤ sets → (pass sets).2 = false → limit ≤ (pass sets).1)
    (hstops : ∃ n, (pass (afterPasses pass start n)).2 = false) (hstart : start ≤ limit) :
    Converges pass start limit where
  grows n := by
    rw [afterPasses_succ]
    exact (hgrows _).le
  unchanged_iff n := by
    rw [afterPasses_succ]
    exact (hgrows _).unchanged_iff
  stops := hstops
  limit_eq n hsame := by
    apply contains_eq_of_le_of_le
    · exact afterPasses_le hbelow hstart (n + 1)
    · rw [afterPasses_succ]
      exact habove _ (le_afterPasses hgrows start n) hsame

end SymbolSets

structure Production.Rearranged (p p' : Production) : Prop where
  left_eq : p.left = p'.left
  alternatives : p.alternatives.Perm p'.alternatives

namespace Production

variable {ps ps' : List Production}

theorem map_left_of_rearranged (h : List.Forall₂ Rearranged ps ps') :
    ps.map left = ps'.map left := by
  induction h with
  | nil => rfl
  | cons hp _ ih => rw [List.map_cons, List.map_cons, hp.left_eq, ih]

theorem perm_rules_of_rearranged (h : List.Forall₂ Rearranged ps ps') :
    (ps.flatMap fun p => p.alternatives.map fun a => (p.left, a)).Perm
      (ps'.flatMap fun p => p.alternatives.map fun a => (p.left, a)) := by
  induction h with
  | nil => exact .refl _
  | cons hp _ ih =>
      rw [List.flatMap_cons, List.flatMap_cons, hp.left_eq]
      exact (hp.alternatives.map _).append ih

end Production

namespace Grammar

variable {g : Grammar} {first follow limit sets : SymbolSets}

/-! ### FIRST -/

theorem FirstClosed.firstUpdate_le (h : g.FirstClosed limit) {r : Symbol × Alternative}
    (hr : r ∈ g.rules) (hsets : sets ≤ limit) : (firstUpdate r sets).1 ≤ limit := by
  intro k s hks
  rcases (SymbolSets.contains_extend _ _ _ _ _).mp hks with hold | ⟨rfl, hnew⟩
  · exact hsets k s hold
  · exact h r.1 r.2 hr s (mem_firstOf_mono hsets hnew)

theorem FirstClosed.firstPass_le (h : g.FirstClosed limit) (hsets : sets ≤ limit) :
    (g.firstPass sets).1 ≤ limit :=
  sweep_of_update (P := (· ≤ limit)) (fun _ hr _ => h.firstUpdate_le hr) hsets

theorem FirstClosed.firstFrom_le (h : g.FirstClosed limit) (hsets : sets ≤ limit) :
    (g.firstFrom sets).value ≤ limit :=
  untilStable_of_step (P := (· ≤ limit)) _ _ _ _ (fun _ => h.firstPass_le) hsets

theorem isLeast_firstFrom (g : Grammar) (keys : List Symbol) :
    IsLeast {sets | g.FirstClosed sets} (g.firstFrom (.ofKeys keys)).value :=
  ⟨g.firstClosed_firstFrom _, fun limit h => h.firstFrom_le (SymbolSets.ofKeys_le keys limit)⟩

theorem firstPass_converges {start : SymbolSets}
    (hlimit : IsLeast {sets | g.FirstClosed sets} limit)
    (hstart : start ≤ limit) : SymbolSets.Converges g.firstPass start limit := by
  obtain ⟨hclosed, hleast⟩ := hlimit
  refine .of_le g.grows_firstPass (fun _ => hclosed.firstPass_le)
    (fun _ _ hsame => hleast (firstClosed_firstPass hsame)) ?_ hstart
  obtain ⟨n, hn⟩ := g.exists_firstPass_iterate_eq start
  exact ⟨n, congrArg Prod.snd hn⟩

/-! ### FOLLOW -/

structure FollowComplete (g : Grammar) (first follow : SymbolSets) : Prop where
  closed : g.FollowClosed first follow
  marked : ∀ start, g.start? = some start → follow.contains start .endMarker = true

theorem FollowClosed.followUpdate_le (h : g.FollowClosed first limit) {o : Occurrence}
    (ho : o ∈ g.occurrences) (hsets : sets ≤ limit) : (followUpdate first o sets).1 ≤ limit := by
  intro k s hks
  rcases (contains_followUpdate _ _ _ _ _).mp hks with
    hold | ⟨rfl, ⟨hinside, hne⟩ | ⟨hvanishes, hleft⟩⟩
  · exact hsets k s hold
  · exact h.inside o ho s hinside hne
  · exact h.behind o ho hvanishes s (hsets _ s hleft)

theorem FollowClosed.followPass_le (h : g.FollowClosed first limit) (hsets : sets ≤ limit) :
    (g.followPass first sets).1 ≤ limit :=
  sweep_of_update (P := (· ≤ limit)) (fun _ ho _ => h.followUpdate_le ho) hsets

theorem FollowClosed.followFrom_le (h : g.FollowClosed first limit) (hsets : sets ≤ limit) :
    (g.followFrom first sets).value ≤ limit :=
  untilStable_of_step (P := (· ≤ limit)) _ _ _ _ (fun _ => h.followPass_le) hsets

theorem FollowComplete.followStart_le (h : g.FollowComplete first follow) {start : Symbol}
    (hstart : g.start? = some start) : g.followStart start ≤ follow := by
  refine SymbolSets.extend_ofKeys_le.mpr fun s hs => ?_
  obtain rfl := List.mem_singleton.mp hs
  exact h.marked start hstart

/-- The FOLLOW sets are the least closed ones with the end marker where the search has put it. -/
theorem isLeast_followFrom (first : SymbolSets) {start : Symbol}
    (hstart : g.start? = some start) :
    IsLeast {sets | g.FollowComplete first sets}
      (g.followFrom first (g.followStart start)).value := by
  constructor
  · exact ⟨g.followClosed_followFrom first _, endMarker_mem_followFrom first hstart⟩
  · intro limit h
    exact h.closed.followFrom_le (h.followStart_le hstart)

theorem followPass_converges {start : SymbolSets}
    (hlimit : IsLeast {sets | g.FollowComplete first sets} limit) (hstart : start ≤ limit)
    (hmarked : ∀ s, g.start? = some s → start.contains s .endMarker = true) :
    SymbolSets.Converges (g.followPass first) start limit := by
  obtain ⟨hcomplete, hleast⟩ := hlimit
  refine .of_le (g.grows_followPass first) (fun _ => hcomplete.closed.followPass_le)
    (fun sets hsets hsame => ?_) ?_ hstart
  · refine hleast ⟨followClosed_followPass hsame, fun s hs => ?_⟩
    exact (g.grows_followPass first sets).le s _ (hsets s _ (hmarked s hs))
  · obtain ⟨n, hn⟩ := g.exists_followPass_iterate_eq first start
    exact ⟨n, congrArg Prod.snd hn⟩

/-! ### Other orders -/

/-- The same grammar with its productions in another order, and in each of them the alternatives. -/
structure Rearranged (g g' : Grammar) : Prop where
  symbols_eq : g.symbols = g'.symbols
  start?_eq : g.start? = g'.start?
  productions : ∃ ps, g.productions.Perm ps ∧
    List.Forall₂ Production.Rearranged ps g'.productions

namespace Rearranged

variable {g' : Grammar}

theorem rules_perm (h : g.Rearranged g') : g.rules.Perm g'.rules := by
  obtain ⟨ps, hperm, hps⟩ := h.productions
  exact (hperm.flatMap_right _).trans (Production.perm_rules_of_rearranged hps)

theorem lefts_perm (h : g.Rearranged g') :
    (g.productions.map Production.left).Perm (g'.productions.map Production.left) := by
  obtain ⟨ps, hperm, hps⟩ := h.productions
  exact (hperm.map _).trans (.of_eq (Production.map_left_of_rearranged hps))

theorem validate_eq_ok (h : g.Rearranged g') (hv : g.validate = .ok ()) :
    g'.validate = .ok () := by
  have hlefts : ∀ s, (∀ p ∈ g.productions, p.left ≠ s) ↔ ∀ p ∈ g'.productions, p.left ≠ s := by
    intro s
    have hmem := h.lefts_perm.mem_iff (a := s)
    simp only [List.mem_map] at hmem
    grind
  rw [validate_eq_ok_iff] at hv ⊢
  simp only [Complete, Undefined, mem_rightSymbols, ← h.rules_perm.mem_iff, ← hlefts,
    ← h.start?_eq] at hv ⊢
  exact hv

theorem firstClosed_iff (h : g.Rearranged g') : g.FirstClosed first ↔ g'.FirstClosed first := by
  simp only [FirstClosed, h.rules_perm.mem_iff]

/-- Only the members of the FIRST sets matter. -/
theorem followComplete_iff (h : g.Rearranged g') {first' : SymbolSets}
    (hfirst : ∀ k s, first.contains k s = first'.contains k s) :
    g.FollowComplete first follow ↔ g'.FollowComplete first' follow := by
  have hoccurrences : ∀ o, o ∈ g.occurrences ↔ o ∈ g'.occurrences := fun _ =>
    (h.rules_perm.flatMap_right _).mem_iff
  have hfirstOf : ∀ α s, s ∈ firstOf first α ↔ s ∈ firstOf first' α := fun α s =>
    ⟨mem_firstOf_mono fun k t ht => hfirst k t ▸ ht,
      mem_firstOf_mono fun k t ht => (hfirst k t).symm ▸ ht⟩
  have hclosed : g.FollowClosed first follow ↔ g'.FollowClosed first' follow := by
    constructor
    · rintro ⟨hinside, hbehind⟩
      simp only [hoccurrences, hfirstOf] at hinside hbehind
      exact ⟨hinside, hbehind⟩
    · rintro ⟨hinside, hbehind⟩
      simp only [← hoccurrences, ← hfirstOf] at hinside hbehind
      exact ⟨hinside, hbehind⟩
  constructor
  · rintro ⟨h₁, h₂⟩
    exact ⟨hclosed.mp h₁, h.start?_eq ▸ h₂⟩
  · rintro ⟨h₁, h₂⟩
    exact ⟨hclosed.mpr h₁, h.start?_eq.symm ▸ h₂⟩

end Rearranged

def reversed (g : Grammar) : Grammar :=
  { g with productions :=
      (g.productions.map fun p => { p with alternatives := p.alternatives.reverse }).reverse }

theorem rearranged_reversed (g : Grammar) : g.Rearranged g.reversed := by
  refine ⟨rfl, rfl, g.productions.reverse, (List.reverse_perm _).symm, ?_⟩
  rw [reversed, ← List.map_reverse, List.forall₂_map_right_iff, List.forall₂_same]
  exact fun p _ => ⟨rfl, (List.reverse_perm _).symm⟩

/-- Every FIRST pass and every FOLLOW pass leads on to the given sets, wherever below them it
begins. -/
structure PassesConverge (g : Grammar) (first follow : SymbolSets) : Prop where
  firstPass : ∀ start, start ≤ first → SymbolSets.Converges g.firstPass start first
  followPass : ∀ start, start ≤ follow →
    (∀ s, g.start? = some s → start.contains s .endMarker = true) →
    SymbolSets.Converges (g.followPass first) start follow

theorem PassesConverge.of_isLeast (hfirst : IsLeast {sets | g.FirstClosed sets} first)
    (hfollow : IsLeast {sets | g.FollowComplete first sets} follow) :
    g.PassesConverge first follow :=
  ⟨fun _ => firstPass_converges hfirst, fun _ => followPass_converges hfollow⟩

theorem exists_sets_of_validate (hv : g.validate = .ok ()) :
    ∃ first follow, g.firstSets = .ok first ∧ g.followSets first.value = .ok follow ∧
      IsLeast {sets | g.FirstClosed sets} first.value ∧
      IsLeast {sets | g.FollowComplete first.value sets} follow.value := by
  obtain ⟨start, hstart⟩ := exists_start_of_validate hv
  exact ⟨_, _, firstSets_of_validate hv, followSets_of_validate hv hstart _,
    g.isLeast_firstFrom _, isLeast_followFrom _ hstart⟩

/-- The passes of a valid grammar end at its FIRST and FOLLOW, wherever below them they begin, and
so do the passes over its productions and their alternatives in any other order. -/
theorem passes_converge (hv : g.validate = .ok ()) :
    ∃ first follow, g.firstSets = .ok first ∧ g.followSets first.value = .ok follow ∧
      g.PassesConverge first.value follow.value ∧
      ∀ g', g.Rearranged g' →
        ∃ first' follow', g'.firstSets = .ok first' ∧ g'.followSets first'.value = .ok follow' ∧
          (∀ k s, first'.value.contains k s = first.value.contains k s) ∧
          (∀ k s, follow'.value.contains k s = follow.value.contains k s) ∧
          g'.PassesConverge first'.value follow'.value := by
  obtain ⟨first, follow, hfirst, hfollow, hleast, hfollowLeast⟩ := exists_sets_of_validate hv
  refine ⟨first, follow, hfirst, hfollow, .of_isLeast hleast hfollowLeast, fun g' h => ?_⟩
  obtain ⟨first', follow', hfirst', hfollow', hleast', hfollowLeast'⟩ :=
    exists_sets_of_validate (h.validate_eq_ok hv)
  have hsame : ∀ k s, first'.value.contains k s = first.value.contains k s := by
    apply SymbolSets.contains_eq_of_le_of_le
    · exact hleast'.2 (h.firstClosed_iff.mp hleast.1)
    · exact hleast.2 (h.firstClosed_iff.mpr hleast'.1)
  have hcomplete : ∀ follow, g.FollowComplete first.value follow ↔
      g'.FollowComplete first'.value follow := fun _ =>
    h.followComplete_iff fun k s => (hsame k s).symm
  refine ⟨first', follow', hfirst', hfollow', hsame, ?_, .of_isLeast hleast' hfollowLeast'⟩
  apply SymbolSets.contains_eq_of_le_of_le
  · exact hfollowLeast'.2 ((hcomplete _).mp hfollowLeast.1)
  · exact hfollowLeast.2 ((hcomplete _).mpr hfollowLeast'.1)

/-- The second non-terminal is already known to vanish, the first one is already known to be
followed by a terminal, and all orders are turned around. -/
theorem passes_converge_reversed :
    let g := (load .compact "S -> A b | ε\nA -> S a | ε").1
    let start := ((SymbolSets.ofKeys []).extend (.nonTerminal "A") [.epsilon]).1
    let behind := ((SymbolSets.ofKeys []).extend (.nonTerminal "S") [.endMarker, .terminal "a"]).1
    g.validate = .ok () ∧ g.Rearranged g.reversed ∧
      ∃ first first', g.firstSets = .ok first ∧ g.reversed.firstSets = .ok first' ∧
        (∀ k s, first'.value.contains k s = first.value.contains k s) ∧
        start ≤ first.value ∧ SymbolSets.Converges g.firstPass start first.value ∧
        start ≤ first'.value ∧ SymbolSets.Converges g.reversed.firstPass start first'.value ∧
        ∃ follow follow', g.followSets first.value = .ok follow ∧
          g.reversed.followSets first'.value = .ok follow' ∧
          (∀ k s, follow'.value.contains k s = follow.value.contains k s) ∧
          behind ≤ follow.value ∧
          SymbolSets.Converges (g.followPass first.value) behind follow.value ∧
          behind ≤ follow'.value ∧
          SymbolSets.Converges (g.reversed.followPass first'.value) behind follow'.value := by
  have hv : (load .compact "S -> A b | ε\nA -> S a | ε").1.validate = .ok () := by cbv
  have hstart? : (load .compact "S -> A b | ε\nA -> S a | ε").1.start? =
      some (.nonTerminal "S") := by cbv
  have hrules : (load .compact "S -> A b | ε\nA -> S a | ε").1.rules =
      [(.nonTerminal "S", [.nonTerminal "A", .terminal "b"]), (.nonTerminal "S", [.epsilon]),
        (.nonTerminal "A", [.nonTerminal "S", .terminal "a"]), (.nonTerminal "A", [.epsilon])] := by
    cbv
  generalize (load .compact "S -> A b | ε\nA -> S a | ε").1 = g at hv hstart? hrules
  intro g' start behind
  obtain ⟨first, follow, hfirst, hfollow, hconverge, hall⟩ := passes_converge hv
  obtain ⟨first', follow', hfirst', hfollow', hsame, hsameFollow, hconverge'⟩ :=
    hall g.reversed g.rearranged_reversed
  have hclosed : g.FirstClosed first.value := by
    obtain rfl := Except.ok.inj ((firstSets_of_validate hv).symm.trans hfirst)
    exact g.firstClosed_firstFrom _
  have hcomplete : g.FollowComplete first.value follow.value := by
    obtain rfl := Except.ok.inj ((followSets_of_validate hv hstart? _).symm.trans hfollow)
    exact (isLeast_followFrom _ hstart?).1
  have hstart : start ≤ first.value := by
    refine SymbolSets.extend_ofKeys_le.mpr fun s hs => hclosed _ [.epsilon] ?_ s hs
    simp [hrules]
  have hoccurs : ⟨.nonTerminal "A", .nonTerminal "S", [.terminal "a"]⟩ ∈ g.occurrences :=
    List.mem_flatMap.mpr ⟨(.nonTerminal "A", [.nonTerminal "S", .terminal "a"]), by simp [hrules],
      Occurrence.mem_inSequence_of_suffix rfl (List.suffix_refl _)⟩
  have hbehind : behind ≤ follow.value := by
    refine SymbolSets.extend_ofKeys_le.mpr fun s hs => ?_
    rcases List.mem_cons.mp hs with rfl | hs
    · exact hcomplete.marked _ hstart?
    · obtain rfl := List.mem_singleton.mp hs
      exact hcomplete.closed.inside _ hoccurs _ List.mem_cons_self (by simp)
  have hmarked : ∀ s, g.start? = some s → behind.contains s .endMarker = true := by
    intro s hs
    obtain rfl : .nonTerminal "S" = s := Option.some.inj (hstart?.symm.trans hs)
    exact (SymbolSets.contains_extend _ _ _ _ _).mpr (.inr ⟨rfl, List.mem_cons_self⟩)
  have hstart' : start ≤ first'.value := fun k s hks => (hsame k s).trans (hstart k s hks)
  have hbehind' : behind ≤ follow'.value := fun k s hks =>
    (hsameFollow k s).trans (hbehind k s hks)
  exact ⟨hv, g.rearranged_reversed, first, first', hfirst, hfirst', hsame, hstart,
    hconverge.firstPass start hstart, hstart', hconverge'.firstPass start hstart',
    follow, follow', hfollow, hfollow', hsameFollow, hbehind,
    hconverge.followPass behind hbehind hmarked, hbehind',
    hconverge'.followPass behind hbehind' hmarked⟩

end Grammar

end Predictive
