import Predictive.Proofs.Factoring.Pass
import Predictive.Proofs.Store.Grouping

/-!
# Left factoring in a store

A pass over a store declares every left side again, adds what becomes of its groups, and then the
productions of the new symbols. All of this goes to the end of the store that is built, so the store
in the end stands for the factored grammar, with as many groups split off
(`Intact.exists_factorPass`). No fresh name is refused on the way. Repeated passes come to the end
that they have for the grammar (`Intact.exists_factorFully`).

The handles in the groups are those of the store that is read. They stand for the same symbols in
the store that is built, which only ever gets more slots.
-/

namespace Predictive

theorem factorGroups_append_single (left : Symbol) (symbols : SymbolTable)
    (alternatives : List Alternative) (groups : List Group) :
    factorGroups left symbols (alternatives.map .single ++ groups) =
      let f := factorGroups left symbols groups
      { f with alternatives := alternatives ++ f.alternatives } := by
  induction alternatives with
  | nil => rfl
  | cons a rest ih => rw [List.map_cons, List.cons_append, factorGroups, ih]; rfl

theorem Grammar.value_factorFully (g : Grammar) :
    g.factorFully.value =
      if g.factorPass.2 = [] then g.factor else g.factor.factorFully.value := by
  rw [factorFully, untilStable]
  split
  · next b h =>
      obtain ⟨rfl, hsplits⟩ := Prod.mk.inj h
      rw [if_pos (by simpa using hsplits)]
      rfl
  · next b h =>
      obtain ⟨rfl, hsplits⟩ := Prod.mk.inj h
      rw [if_neg (by simpa using hsplits)]
      rfl

namespace GrammarStore

variable {g : GrammarStore} {source : SymbolStore} {left : Handle}

namespace Intact

theorem left_mem_view (h : g.Intact) :
    ∀ s ∈ g.view.productions.map Production.left, s ∈ g.view.symbols.symbols := by
  intro s hs
  obtain ⟨q, hq, rfl⟩ := List.mem_map.mp hs
  obtain ⟨p, hp, rfl⟩ := List.mem_map.mp hq
  exact h.symbols.symbol_mem (h.left_has p hp)

theorem fresh_notMem_lefts (h : g.Intact) (base : String) :
    (g.view.fresh base).1 ∉ g.view.productions.map Production.left :=
  fun hmem => SymbolTable.fresh_notMem_symbols g.view.symbols base (h.left_mem_view _ hmem)

theorem view_declare_new (h : g.Intact) (hsource : source.Intact)
    (hext : source.Extends g.symbols) (hleft : source.Has left)
    (hnew : source.symbol left ∉ g.view.productions.map Production.left)
    (hstart : g.view.start? ≠ none) :
    (g.declare left).view = ⟨g.view.symbols,
      g.view.productions ++ [⟨source.symbol left, []⟩], g.view.start?⟩ := by
  rw [h.view_declare (hext.has hleft), hsource.symbol_of_extends hext hleft,
    Grammar.declare_of_notMem hnew hstart]

theorem steps_fresh {base : String} {s : Handle} {g' : GrammarStore}
    (h : g.fresh base = .ok (s, g')) : Steps g g' :=
  .single (.intern h)

/-- Handles of the one store are added to the last production of the other. -/
theorem view_addAll_last (h : g.Intact) (hsource : source.Intact)
    (hext : source.Extends g.symbols) (hleft : source.Has left) {pre : List Production}
    {alternatives : List Alternative}
    (hproductions : g.view.productions = pre ++ [⟨source.symbol left, alternatives⟩])
    (hpre : source.symbol left ∉ pre.map Production.left) {members : List (List Handle)}
    (hmembers : ∀ a ∈ members, source.IsAlternative a) :
    (g.addAll left members).view = { g.view with
      productions := pre ++ [⟨source.symbol left,
        alternatives ++ members.map (·.map source.symbol)⟩] } := by
  have hsymbol := hsource.symbol_of_extends hext hleft
  have hsame : ∀ a ∈ members, a.map g.symbols.symbol = a.map source.symbol :=
    fun a ha => List.map_congr_left fun s hs =>
      hsource.symbol_of_extends hext ((hmembers a ha).has s hs)
  have hnormal : (members.map (·.map source.symbol)).map Alternative.ofSequence =
      members.map (·.map source.symbol) := by
    rw [List.map_map]
    exact List.map_congr_left fun a ha => (hmembers a ha).ofSequence_eq hsource
  rw [h.view_addAll (hext.has hleft) fun a ha s hs => hext.has ((hmembers a ha).has s hs), hsymbol,
    List.map_congr_left hsame, Grammar.addAll_last hproductions hpre, hnormal]

/-- A new symbol is made, and the alternative that stands for a group ends in it. -/
theorem exists_addSplit (h : g.Intact) (hsource : source.Intact)
    (hext : source.Extends g.symbols) (hleft : source.Has left) {pre : List Production}
    {alternatives : List Alternative}
    (hproductions : g.view.productions = pre ++ [⟨source.symbol left, alternatives⟩])
    (hpre : source.symbol left ∉ pre.map Production.left) {head : Handle}
    (hhead : source.Has head) (hne : head ≠ .epsilon) (base : String) :
    ∃ suffix g', g.fresh base = .ok (suffix, g') ∧ Steps g (g'.add left [head, suffix]) ∧
      (g'.add left [head, suffix]).symbols.Has suffix ∧
      (g'.add left [head, suffix]).symbols.symbol suffix = (g.view.symbols.fresh base).1 ∧
      (g'.add left [head, suffix]).view = ⟨(g.view.symbols.fresh base).2,
        pre ++ [⟨source.symbol left,
          alternatives ++ [[source.symbol head, (g.view.symbols.fresh base).1]]⟩],
        g.view.start?⟩ := by
  obtain ⟨suffix, g', hfresh, hview, hsuffix⟩ := h.exists_fresh base
  obtain ⟨h', hext', hhas, -⟩ := h.intern hfresh
  replace hext' := hext.trans hext'
  have hpair : ∀ s ∈ [head, suffix], g'.symbols.Has s := by
    simp [hext'.has hhead, hhas]
  have hhead' : source.symbol head ≠ .epsilon :=
    mt (hsource.symbol_eq_epsilon_iff hhead).mp hne
  have hnormal : Alternative.ofSequence [source.symbol head, (g.view.symbols.fresh base).1] =
      [source.symbol head, (g.view.symbols.fresh base).1] := by
    refine Alternative.ofSequence_of_notMem ?_ (List.cons_ne_nil _ _)
    simp [hhead'.symm, SymbolTable.fresh]
  have hproductions' : g'.view.productions = pre ++ [⟨source.symbol left, alternatives⟩] := by
    rw [hview, ← hproductions]
    rfl
  refine ⟨suffix, g', hfresh, (steps_fresh hfresh).tail (.add (hext'.has hleft) hpair), ?_, ?_, ?_⟩
  · rwa [symbols_add]
  · rwa [symbols_add]
  · rw [h'.view_add (hext'.has hleft) hpair, hsource.symbol_of_extends hext' hleft, List.map_cons,
      List.map_singleton, hsuffix, hsource.symbol_of_extends hext' hhead]
    change g'.view.add _ [source.symbol head, (g.view.symbols.fresh base).1] = _
    rw [Grammar.add_last hproductions' hpre, hnormal, hview]
    rfl

end Intact

/-! ### The groups of a production -/

structure FactorsGroups (g : GrammarStore) (source : SymbolStore) (pre : List Production)
    (alternatives : List Alternative) (left : Symbol)
    (r : GrammarStore × List SuffixProduction) (f : FactoredGroups) : Prop where
  steps : Steps g r.1
  view_eq : r.1.view =
    ⟨f.symbols, pre ++ [⟨left, alternatives ++ f.alternatives⟩], g.view.start?⟩
  new_has : ∀ s ∈ r.2, r.1.symbols.Has s.left
  suffixes_ne_nil : ∀ s ∈ r.2, s.suffixes ≠ []
  suffixes_has : ∀ s ∈ r.2, ∀ a ∈ s.suffixes, ∀ t ∈ a, source.Has t
  new_eq : r.2.map (fun s => ⟨r.1.symbols.symbol s.left,
    s.suffixes.map fun a => .ofSequence (a.map source.symbol)⟩) = f.productions

theorem FactorsGroups.keep {g' : GrammarStore} {pre : List Production}
    {alternatives members : List Alternative} {left : Symbol}
    {r : GrammarStore × List SuffixProduction} {f : FactoredGroups}
    (h : FactorsGroups g' source pre (alternatives ++ members) left r f) (hsteps : Steps g g')
    (hstart : g'.view.start? = g.view.start?) :
    FactorsGroups g source pre alternatives left r
      { f with alternatives := members ++ f.alternatives } where
  steps := hsteps.trans h.steps
  view_eq := by rw [h.view_eq, List.append_assoc, hstart]
  new_has := h.new_has
  suffixes_ne_nil := h.suffixes_ne_nil
  suffixes_has := h.suffixes_has
  new_eq := h.new_eq

theorem FactorsGroups.split {pre : List Production} {alternatives : List Alternative}
    {left : Symbol} {r : GrammarStore × List SuffixProduction} {f : FactoredGroups}
    (h : FactorsGroups g source pre alternatives left r f) (hsource : source.Intact)
    (hg : g.Intact) {suffix : Handle} (hsuffix : g.symbols.Has suffix)
    {members : List (List Handle)} (hne : members ≠ [])
    (hmembers : ∀ a ∈ members, source.IsAlternative a) (split : Split) :
    FactorsGroups g source pre alternatives left
      (r.1, ⟨suffix, members.map List.tail⟩ :: r.2)
      { f with
        productions := ⟨g.symbols.symbol suffix,
          (members.map fun a => a.tail.map source.symbol).map Alternative.orEpsilon⟩ ::
            f.productions
        splits := split :: f.splits } := by
  have hext := (h.steps.keeps hg).2
  refine ⟨h.steps, h.view_eq, List.forall_mem_cons.mpr ⟨hext.has hsuffix, h.new_has⟩,
    List.forall_mem_cons.mpr ⟨by simpa using hne, h.suffixes_ne_nil⟩,
    List.forall_mem_cons.mpr ⟨?_, h.suffixes_has⟩, ?_⟩
  · refine List.forall_mem_map.mpr fun a ha s hs => ?_
    exact (hmembers a ha).has s (List.mem_of_mem_tail hs)
  · rw [List.map_cons, h.new_eq, hg.symbols.symbol_of_extends hext hsuffix, List.map_map,
      List.map_map]
    refine congrArg (fun alternatives => Production.mk _ alternatives :: _) ?_
    exact List.map_congr_left fun a ha => (hmembers a ha).ofSequence_tail hsource

/-- A group that is not split off only adds its members. -/
theorem FactorsGroups.addMembers {pre : List Production} {alternatives : List Alternative}
    {r : GrammarStore × List SuffixProduction} {members : List (List Handle)}
    {groups : List Group}
    (h : FactorsGroups (g.addAll left members) source pre
      (alternatives ++ members.map (·.map source.symbol)) (source.symbol left) r
      (Predictive.factorGroups (source.symbol left) g.view.symbols groups))
    (hsteps : Steps g (g.addAll left members))
    (hstart : (g.addAll left members).view.start? = g.view.start?) :
    FactorsGroups g source pre alternatives (source.symbol left) r
      (Predictive.factorGroups (source.symbol left) g.view.symbols
        ((members.map fun a => .single (a.map source.symbol)) ++ groups)) := by
  have hsingle := factorGroups_append_single (source.symbol left) g.view.symbols
    (members.map (·.map source.symbol)) groups
  rw [List.map_map] at hsingle
  exact hsingle ▸ h.keep hsteps hstart

theorem Intact.exists_factorGroups (h : g.Intact) (hsource : source.Intact)
    (hext : source.Extends g.symbols) (hleft : source.Has left) {pre : List Production}
    (hpre : source.symbol left ∉ pre.map Production.left) {alternatives : List Alternative}
    (hproductions : g.view.productions = pre ++ [⟨source.symbol left, alternatives⟩])
    {groups : List HeadGroup} (hgroups : ∀ group ∈ groups, group.Fits source) :
    ∃ r, factorGroups (source.symbol left).name left g groups = .ok r ∧
      FactorsGroups g source pre alternatives (source.symbol left) r
        (Predictive.factorGroups (source.symbol left) g.view.symbols
          (groups.flatMap (HeadGroup.view source.symbol))) := by
  induction groups generalizing g alternatives with
  | nil =>
      refine ⟨(g, []), rfl, .refl, ?_, List.forall_mem_nil _, List.forall_mem_nil _,
        List.forall_mem_nil _, rfl⟩
      rw [List.flatMap_nil, Predictive.factorGroups, List.append_nil, ← hproductions]
  | cons group rest ih =>
      obtain ⟨hgroup, hrest⟩ := List.forall_mem_cons.mp hgroups
      have hview := h.view_addAll_last hsource hext hleft hproductions hpre hgroup.members
      have hadds : Steps g (g.addAll left group.members) :=
        steps_addAll (hext.has hleft) fun a ha s hs => hext.has ((hgroup.members a ha).has s hs)
      obtain ⟨r, hr, hfactors⟩ := ih (hadds.keeps h).1
        (symbols_addAll g left group.members ▸ hext) (congrArg Grammar.productions hview) hrest
      rw [hview] at hfactors
      have hkept := hfactors.addMembers hadds (by rw [hview])
      rw [List.flatMap_cons, GrammarStore.factorGroups, HeadGroup.view]
      cases hhead : group.head? with
      | none => exact ⟨r, hr, hkept⟩
      | some head =>
          dsimp only
          by_cases hsingle : group.members.length ≤ 1
          · rw [if_pos hsingle, if_pos hsingle]
            exact ⟨r, hr, hkept⟩
          · rw [if_neg hsingle, if_neg hsingle]
            obtain ⟨hheadHas, hheadNe⟩ := hgroup.head head hhead
            have hne : group.members ≠ [] := by
              intro hnil
              rw [hnil] at hsingle
              exact hsingle (Nat.zero_le 1)
            obtain ⟨suffix, g', hfresh, hsteps, hhas, hsuffix, hview⟩ :=
              h.exists_addSplit hsource hext hleft hproductions hpre hheadHas hheadNe
                (source.symbol left).name
            obtain ⟨hadded, hext'⟩ := hsteps.keeps h
            obtain ⟨r, hr, hfactors⟩ := ih hadded (hext.trans hext')
              (congrArg Grammar.productions hview) hrest
            rw [hview] at hfactors
            have hsplit := (hfactors.split hsource hadded hhas hne hgroup.members
              ⟨source.symbol left, source.symbol head, group.members.length,
                (g.view.symbols.fresh (source.symbol left).name).1⟩).keep hsteps (by rw [hview])
            rw [hfresh]
            dsimp only
            rw [hr]
            refine ⟨_, rfl, ?_⟩
            rw [List.singleton_append, Predictive.factorGroups, List.length_map]
            rw [hsuffix] at hsplit
            exact hsplit

/-! ### The suffixes of a production -/

theorem steps_addSuffixes {new : List SuffixProduction}
    (hleft : ∀ s ∈ new, g.symbols.Has s.left)
    (hsuffixes : ∀ s ∈ new, ∀ a ∈ s.suffixes, ∀ t ∈ a, g.symbols.Has t) :
    Steps g (g.addSuffixes new) := by
  induction new generalizing g with
  | nil => exact .refl
  | cons s rest ih =>
      obtain ⟨hs, hrest⟩ := List.forall_mem_cons.mp hleft
      obtain ⟨hs', hrest'⟩ := List.forall_mem_cons.mp hsuffixes
      have hsymbols := symbols_addAll g s.left s.suffixes
      exact (steps_addAll hs hs').trans (ih (hsymbols ▸ hrest) (hsymbols ▸ hrest'))

theorem Intact.view_addSuffixes (h : g.Intact) {new : List SuffixProduction}
    (hleft : ∀ s ∈ new, g.symbols.Has s.left)
    (hsuffixes : ∀ s ∈ new, ∀ a ∈ s.suffixes, ∀ t ∈ a, g.symbols.Has t) :
    (g.addSuffixes new).view = g.view.addProductions (new.map fun s =>
      (g.symbols.symbol s.left, s.suffixes.map (·.map g.symbols.symbol))) := by
  induction new generalizing g with
  | nil => rfl
  | cons s rest ih =>
      obtain ⟨hs, hrest⟩ := List.forall_mem_cons.mp hleft
      obtain ⟨hs', hrest'⟩ := List.forall_mem_cons.mp hsuffixes
      have hsymbols := symbols_addAll g s.left s.suffixes
      have hview := ih ((steps_addAll hs hs').keeps h).1 (hsymbols ▸ hrest) (hsymbols ▸ hrest')
      rw [hsymbols, h.view_addAll hs hs'] at hview
      exact hview

theorem FactorsGroups.view_addSuffixes {left : Symbol} {pre : List Production}
    {alternatives : List Alternative} {r : GrammarStore × List SuffixProduction}
    {groups : List Group}
    (h : FactorsGroups g source pre alternatives left r
      (Predictive.factorGroups left g.view.symbols groups))
    (hg : g.Intact) (hsource : source.Intact) (hext : source.Extends g.symbols)
    (hlefts : ∀ s ∈ (pre ++ [Production.mk left []]).map Production.left,
      s ∈ g.view.symbols.symbols)
    (hstart : g.view.start? ≠ none) :
    Steps g (r.1.addSuffixes r.2) ∧ (r.1.addSuffixes r.2).view =
      let f := Predictive.factorGroups left g.view.symbols groups
      ⟨f.symbols, pre ++ ⟨left, alternatives ++ f.alternatives⟩ :: f.productions,
        g.view.start?⟩ := by
  obtain ⟨hintact, hext'⟩ := h.steps.keeps hg
  replace hext' := hext.trans hext'
  have hsuffixes : ∀ s ∈ r.2, ∀ a ∈ s.suffixes, ∀ t ∈ a, r.1.symbols.Has t :=
    fun s hs a ha t ht => hext'.has (h.suffixes_has s hs a ha t ht)
  refine ⟨h.steps.trans (steps_addSuffixes h.new_has hsuffixes), ?_⟩
  have hnew : (r.2.map fun s => (r.1.symbols.symbol s.left,
        s.suffixes.map (·.map r.1.symbols.symbol))).map
          (fun p => Production.mk p.1 (p.2.map .ofSequence)) =
      (Predictive.factorGroups left g.view.symbols groups).productions := by
    rw [← h.new_eq, List.map_map]
    refine List.map_congr_left fun s hs => ?_
    rw [Function.comp_apply, List.map_map]
    refine congrArg (Production.mk _) (List.map_congr_left fun a ha => ?_)
    refine congrArg Alternative.ofSequence (List.map_congr_left fun t ht => ?_)
    exact hsource.symbol_of_extends hext' (h.suffixes_has s hs a ha t ht)
  have hfst : (r.2.map fun s => (r.1.symbols.symbol s.left,
        s.suffixes.map (·.map r.1.symbols.symbol))).map Prod.fst =
      (Predictive.factorGroups left g.view.symbols groups).splits.map Split.suffix := by
    rw [← lefts_factorGroups, ← hnew, List.map_map, List.map_map, List.map_map]
    rfl
  obtain ⟨hnodup, hnot⟩ := (wellFormed_factorGroups left g.view.symbols groups
    hg.symbols.wellFormed_view).new_nodup (named_factorGroups left g.view.symbols groups)
  rw [hintact.view_addSuffixes h.new_has hsuffixes, Grammar.addProductions_eq, hnew, h.view_eq,
    List.append_assoc]
  · rfl
  · rwa [hfst]
  · rw [hfst, h.view_eq]
    intro s hs hmem
    exact hnot s hs (hlefts s (by simpa using hmem))
  · rwa [h.view_eq]
  · refine List.forall_mem_map.mpr fun s hs => ?_
    simpa using h.suffixes_ne_nil s hs

/-! ### A pass -/

structure Factors (g : GrammarStore) (r : GrammarStore × ℕ) (f : FactoredProductions) : Prop where
  steps : Steps g r.1
  view_eq : r.1.view = ⟨f.symbols, g.view.productions ++ f.productions, g.view.start?⟩
  count_eq : r.2 = f.splits.length

theorem Factors.append {r r' : GrammarStore × ℕ} {f f' : FactoredProductions}
    (h : Factors g r f) (h' : Factors r.1 r' f') :
    Factors g (r'.1, r.2 + r'.2)
      ⟨f'.symbols, f.productions ++ f'.productions, f.splits ++ f'.splits⟩ where
  steps := h.steps.trans h'.steps
  view_eq := by rw [h'.view_eq, h.view_eq, List.append_assoc]
  count_eq := by rw [h.count_eq, h'.count_eq, List.length_append]

theorem Intact.nameOf_eq (h : g.Intact) {s : Handle} (hs : g.symbols.Has s) :
    g.nameOf s = (g.symbols.symbol s).name := by
  rw [nameOf, List.getD_eq_getElem?_getD, h.symbols.getElem?_names hs, Option.getD_some]

variable {old : GrammarStore}

theorem Intact.exists_factorProduction (h : g.Intact) (hold : old.Intact)
    (hext : old.symbols.Extends g.symbols) {p : StoredProduction} (hp : p ∈ old.productions)
    (hnew : old.symbols.symbol p.left ∉ g.view.productions.map Production.left)
    (hstart : g.view.start? ≠ none) :
    ∃ r new, factorGroups (old.nameOf p.left) p.left (g.declare p.left)
        (HeadGroup.ofAlternatives p.alternatives) = .ok (r, new) ∧
      Factors g (r.addSuffixes new, new.length)
        (let q := viewProduction old.symbols p
        let f := Predictive.factorGroups q.left g.view.symbols
          (Group.ofAlternatives q.alternatives)
        ⟨f.symbols, ⟨q.left, f.alternatives⟩ :: f.productions, f.splits⟩) := by
  have hleft := hold.left_has p hp
  have hdeclared := h.declare (hext.has hleft)
  have hview := h.view_declare_new hold.symbols hext hleft hnew hstart
  have hext' : old.symbols.Extends (g.declare p.left).symbols :=
    (symbols_declare g p.left).symm ▸ hext
  obtain ⟨r, hr, hfactors⟩ := hdeclared.exists_factorGroups hold.symbols hext' hleft hnew
    (congrArg Grammar.productions hview)
    (HeadGroup.fits_of_mem_ofAlternatives fun a ha => hold.isAlternative hp ha)
  rw [HeadGroup.flatMap_view_ofAlternatives hold.symbols _ (hold.right_has p hp)] at hfactors
  have hlefts : ∀ s ∈ (g.view.productions ++
      [Production.mk (old.symbols.symbol p.left) []]).map Production.left,
        s ∈ (g.declare p.left).view.symbols.symbols := by
    intro s hs
    exact hdeclared.left_mem_view s (by rw [hview]; exact hs)
  obtain ⟨hsteps, hadded⟩ := hfactors.view_addSuffixes hdeclared hold.symbols hext' hlefts
    (by rwa [hview])
  have hcount : r.2.length = (Predictive.factorGroups (old.symbols.symbol p.left)
      (g.declare p.left).view.symbols
        (Group.ofAlternatives (p.alternatives.map (·.map old.symbols.symbol)))).splits.length := by
    have hlength := congrArg List.length hfactors.new_eq
    rw [List.length_map] at hlength
    rw [hlength, ← List.length_map, lefts_factorGroups, List.length_map]
  rw [hview] at hadded hcount
  refine ⟨r.1, r.2, by rwa [hold.nameOf_eq hleft], ?_, hadded, hcount⟩
  exact .head (.declare (hext.has hleft)) hsteps

theorem Intact.exists_factorProductions (h : g.Intact) (hold : old.Intact)
    (hext : old.symbols.Extends g.symbols) {productions : List StoredProduction}
    (hmem : ∀ p ∈ productions, p ∈ old.productions)
    (hnodup : (productions.map StoredProduction.left).Nodup)
    (hnew : ∀ p ∈ productions,
      old.symbols.symbol p.left ∉ g.view.productions.map Production.left)
    (hstart : productions ≠ [] → g.view.start? ≠ none) :
    ∃ r, factorProductions old g productions = .ok r ∧
      Factors g r (Predictive.factorProductions g.view.symbols
        (productions.map (viewProduction old.symbols))) := by
  induction productions generalizing g with
  | nil => exact ⟨(g, 0), rfl, .refl, by rw [List.map_nil, Predictive.factorProductions,
      List.append_nil], rfl⟩
  | cons p rest ih =>
      obtain ⟨hp, hrest⟩ := List.forall_mem_cons.mp hmem
      obtain ⟨hnot, hnodup⟩ := List.nodup_cons.mp hnodup
      obtain ⟨hhead, htail⟩ := List.forall_mem_cons.mp hnew
      have hsome := hstart (List.cons_ne_nil _ _)
      obtain ⟨r, new, hr, hfactors⟩ := h.exists_factorProduction hold hext hp hhead hsome
      obtain ⟨hintact, hext'⟩ := hfactors.steps.keeps h
      have hdone : ∀ q ∈ rest, old.symbols.symbol q.left ∉
          (r.addSuffixes new).view.productions.map Production.left := by
        intro q hq
        have hqleft := hold.left_has q (hrest q hq)
        have hq' : old.symbols.symbol q.left ∈ g.view.symbols.symbols :=
          hold.symbols.symbol_of_extends hext hqleft ▸ h.symbols.symbol_mem (hext.has hqleft)
        obtain ⟨-, hfresh⟩ := (wellFormed_factorGroups (viewProduction old.symbols p).left
          g.view.symbols _ h.symbols.wellFormed_view).new_nodup (named_factorGroups _ _ _)
        rw [hfactors.view_eq, List.map_append, List.map_cons, lefts_factorGroups]
        simp only [List.mem_append, List.mem_cons, not_or]
        refine ⟨htail q hq, fun heq => hnot ?_, fun hmem => hfresh _ hmem hq'⟩
        rw [← hold.symbols.symbol_inj hqleft (hold.left_has p hp) heq]
        exact List.mem_map_of_mem hq
      obtain ⟨r', hr', hfactors'⟩ := ih hintact (hext.trans hext') hrest hnodup hdone
        (fun _ => by rw [hfactors.view_eq]; exact hsome)
      refine ⟨(r'.1, new.length + r'.2), ?_, ?_⟩
      · rw [factorProductions, hr]
        dsimp only
        rw [hr']
        rfl
      · have happend := hfactors.append hfactors'
        rw [hfactors.view_eq] at happend
        exact happend

/-- A pass over a store is the pass over the grammar, and nothing is refused. -/
theorem Intact.exists_factorPass (h : g.Intact) :
    ∃ r, g.factorPass = .ok r ∧ Steps g.deriveEmpty r.1 ∧ r.1.view = g.view.factor ∧
      r.2 = g.view.factorPass.2.length := by
  have hstart : g.productions ≠ [] → g.deriveEmpty.view.start? ≠ none :=
    fun hne hnone => h.start_ne hne (Option.map_eq_none_iff.mp hnone)
  obtain ⟨r, hr, hsteps, hview, hcount⟩ := h.deriveEmpty.exists_factorProductions h (.refl _)
    (fun p hp => hp) h.lefts_nodup (fun p _ hmem => nomatch hmem) hstart
  exact ⟨r, hr, hsteps, hview, hcount⟩

/-! ### Repeated passes -/

/-- A pass that splits something leaves less to share. -/
theorem Intact.overlap_lt (h : g.Intact) {r : GrammarStore × ℕ} (hr : g.factorPass = .ok r)
    (hne : r.2 ≠ 0) : r.1.view.overlap < g.view.overlap := by
  obtain ⟨r', hr', -, hview, hcount⟩ := h.exists_factorPass
  obtain rfl : r = r' := Except.ok.inj (hr.symm.trans hr')
  rw [hview]
  refine g.view.overlap_factorPass_lt fun hnil => hne ?_
  rw [hcount, hnil]
  rfl

/-- So the repetition ends with a pass that splits nothing. -/
theorem Intact.factorFully_eq (h : g.Intact) {r : GrammarStore × ℕ} (hr : g.factorPass = .ok r) :
    g.factorFully = if r.2 = 0 then .ok r.1 else r.1.factorFully := by
  rw [factorFully, hr]
  dsimp only
  by_cases hzero : r.2 = 0
  · rw [if_pos hzero, if_pos hzero]
  · rw [if_neg hzero, if_neg hzero, dif_pos (h.overlap_lt hr hzero)]

theorem Intact.exists_factorFully (h : g.Intact) :
    ∃ r, g.factorFully = .ok r ∧ r.Intact ∧ g.symbols.Extends r.symbols ∧
      r.view = g.view.factorFully.value := by
  induction hk : g.view.overlap using Nat.strong_induction_on generalizing g with
  | _ k ih =>
      obtain ⟨r, hr, hsteps, hview, hcount⟩ := h.exists_factorPass
      obtain ⟨hintact, hext⟩ := hsteps.keeps h.deriveEmpty
      have hext : g.symbols.Extends r.1.symbols := hext
      have hzero : r.2 = 0 ↔ g.view.factorPass.2 = [] := hcount ▸ List.length_eq_zero_iff
      rw [h.factorFully_eq hr, Grammar.value_factorFully, if_congr hzero rfl rfl]
      by_cases hsplits : g.view.factorPass.2 = []
      · rw [if_pos hsplits, if_pos hsplits]
        exact ⟨r.1, rfl, hintact, hext, hview⟩
      · rw [if_neg hsplits, if_neg hsplits, ← hview]
        have hlt := h.overlap_lt hr (hzero.not.mpr hsplits)
        obtain ⟨r', hr', hintact', hext', hview'⟩ := ih r.1.view.overlap (hk ▸ hlt) hintact rfl
        exact ⟨r', hr', hintact', hext.trans hext', hview'⟩

end GrammarStore

end Predictive
