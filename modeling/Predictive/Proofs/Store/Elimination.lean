import Predictive.Proofs.LeftRecursion.Rules
import Predictive.Proofs.Store.Factoring

/-!
# Elimination of left recursion in a store

Elimination goes over the handles of the non-terminals, and looks the production of each up in the
store that it reads. It adds the same productions to the store that it builds as the elimination of
the grammar puts into its list (`Intact.exists_eliminateProductions`), and it is refused for the
same cycle (`Intact.eliminate`).
-/

namespace Predictive

/-! ### Eliminating production by production -/

theorem eliminateProductions_cons (symbols : SymbolTable) (p : Production)
    (rest : List Production) :
    eliminateProductions symbols (p :: rest) =
      let e := eliminateProductions symbols [p]
      let e' := eliminateProductions e.symbols rest
      ⟨e'.symbols, e.productions ++ e'.productions, e.removals ++ e'.removals⟩ := by
  by_cases h : p.recursive = []
  · rw [eliminateProductions_cons_of_nil _ _ h, eliminateProductions_cons_of_nil _ _ h]
    rfl
  · rw [eliminateProductions_cons_of_ne_nil _ _ h, eliminateProductions_cons_of_ne_nil _ _ h]
    rfl

theorem mem_lefts_eliminateProductions {symbols : SymbolTable} (hsymbols : symbols.WellFormed)
    {p : Production} {s : Symbol}
    (h : s ∈ (eliminateProductions symbols [p]).productions.map Production.left) :
    s = p.left ∨ s ∉ symbols.symbols := by
  rcases List.mem_append.mp ((perm_lefts_eliminateProductions symbols [p]).subset h) with h | h
  · exact .inl (List.mem_singleton.mp h)
  · exact .inr (((wellFormed_eliminateProductions symbols [p] hsymbols).new_nodup
      (named_eliminateProductions symbols [p])).2 s h)

namespace GrammarStore

variable {g old : GrammarStore} {left : Handle}

namespace Intact

theorem production?_cases (h : g.Intact) (hleft : g.symbols.Has left) :
    (g.production? left = none ∧ g.view.production? (g.symbols.symbol left) = none) ∨
      ∃ p ∈ g.productions, p.left = left ∧ g.production? left = some p ∧
        g.view.production? (g.symbols.symbol left) = some (viewProduction g.symbols p) := by
  cases hlookup : g.productionIndex.lookup left with
  | none =>
      refine .inl ⟨by rw [production?, hlookup]; rfl, ?_⟩
      rw [← Option.not_isSome_iff_eq_none, h.isSome_view_production?_iff hleft,
        ← h.isSome_lookup_iff, hlookup]
      exact Bool.false_ne_true
  | some i =>
      have hi := (h.position_iff left i).mp hlookup
      obtain ⟨p, hp, rfl⟩ := Option.map_eq_some_iff.mp hi
      have hmem := List.mem_of_getElem? hp
      refine .inr ⟨p, hmem, rfl, by rw [production?, hlookup]; exact hp, ?_⟩
      have hview : viewProduction g.symbols p ∈ g.view.productions :=
        List.mem_map_of_mem (f := viewProduction g.symbols) hmem
      exact Grammar.production?_left_of_nodup h.lefts_nodup_view hview

end Intact

/-! ### One production -/

section Alternatives

variable {store : SymbolStore} {p : StoredProduction}

theorem head?_map_beq (hstore : store.Intact) (hleft : store.Has left) {a : List Handle}
    (ha : ∀ s ∈ a, store.Has s) :
    ((a.map store.symbol).head? == some (store.symbol left)) = (a.head? == some left) := by
  cases a with
  | nil => rfl
  | cons s rest =>
      have hs := ha s List.mem_cons_self
      rw [List.map_cons, List.head?_cons, List.head?_cons, Bool.eq_iff_iff, beq_iff_eq,
        beq_iff_eq, Option.some_inj, Option.some_inj]
      exact ⟨hstore.symbol_inj hs hleft, congrArg store.symbol⟩

theorem recursive_view (hstore : store.Intact) (hleft : store.Has p.left)
    (h : ∀ a ∈ p.alternatives, ∀ s ∈ a, store.Has s) :
    (viewProduction store p).recursive =
      (p.recursive p.left).map (·.map store.symbol) := by
  have hfilter : (viewProduction store p).alternatives.filter
        (fun a => List.head? a == some (store.symbol p.left)) =
      (p.alternatives.filter fun a => a.head? == some p.left).map (·.map store.symbol) := by
    rw [viewProduction, List.filter_map]
    exact congrArg _ (List.filter_congr fun a ha => head?_map_beq hstore hleft (h a ha))
  refine (congrArg (List.map List.tail) hfilter).trans ?_
  rw [StoredProduction.recursive, List.map_map, List.map_map]
  exact List.map_congr_left fun a _ => List.map_tail.symm

theorem others_view (hstore : store.Intact) (hleft : store.Has p.left)
    (h : ∀ a ∈ p.alternatives, ∀ s ∈ a, store.Has s) :
    (viewProduction store p).others = (p.others p.left).map (·.map store.symbol) := by
  rw [Production.others, viewProduction, List.filter_map, StoredProduction.others]
  exact congrArg _ (List.filter_congr fun a ha =>
    congrArg (!·) (head?_map_beq hstore hleft (h a ha)))

end Alternatives

structure Eliminates (g r : GrammarStore) (e : Eliminated) : Prop where
  steps : Steps g r
  view_eq : r.view = ⟨e.symbols, g.view.productions ++ e.productions, g.view.start?⟩

theorem Eliminates.append {r r' : GrammarStore} {e e' : Eliminated} (h : Eliminates g r e)
    (h' : Eliminates r r' e') :
    Eliminates g r' ⟨e'.symbols, e.productions ++ e'.productions, e.removals ++ e'.removals⟩ where
  steps := h.steps.trans h'.steps
  view_eq := by rw [h'.view_eq, h.view_eq, List.append_assoc]

theorem Intact.view_addWithTail (h : g.Intact) (hleft : g.symbols.Has left) {tail : Handle}
    (htail : g.symbols.Has tail) {others recursive : List (List Handle)}
    (hothers : ∀ a ∈ others, ∀ s ∈ a, g.symbols.Has s)
    (hrecursive : ∀ a ∈ recursive, ∀ s ∈ a, g.symbols.Has s) :
    Steps g (((g.addAll left others).addAll tail recursive).add tail [.epsilon]) ∧
      (((g.addAll left others).addAll tail recursive).add tail [.epsilon]).view =
        ((g.view.addAll (g.symbols.symbol left) (others.map (·.map g.symbols.symbol))).addAll
          (g.symbols.symbol tail) (recursive.map (·.map g.symbols.symbol))).add
            (g.symbols.symbol tail) [.epsilon] := by
  have hview := h.view_addAll hleft hothers
  have hsteps := steps_addAll hleft hothers
  have hsymbols := symbols_addAll g left others
  obtain ⟨hintact, -⟩ := hsteps.keeps h
  generalize g.addAll left others = g₁ at *
  rw [← hsymbols] at htail hrecursive
  have hview' := hintact.view_addAll htail hrecursive
  have hsteps' := steps_addAll htail hrecursive
  have hsymbols' := symbols_addAll g₁ tail recursive
  obtain ⟨hintact', -⟩ := hsteps'.keeps hintact
  generalize g₁.addAll tail recursive = g₂ at *
  have hepsilon : ∀ s ∈ [Handle.epsilon], g₂.symbols.Has s :=
    List.forall_mem_singleton.mpr hintact'.symbols.has_epsilon
  rw [← hsymbols'] at htail
  refine ⟨(hsteps.trans hsteps').tail (.add htail hepsilon), ?_⟩
  rw [hintact'.view_add htail hepsilon, hview', hview, List.map_singleton,
    hintact'.symbols.symbol_epsilon, hsymbols', hsymbols]

section Tail

variable {store source : SymbolStore} {alternatives : List (List Handle)} {tail : Handle}

theorem has_of_mem_map_append (hext : source.Extends store) (htail : store.Has tail)
    (h : ∀ a ∈ alternatives, ∀ s ∈ a, source.Has s) :
    ∀ a ∈ alternatives.map (· ++ [tail]), ∀ s ∈ a, store.Has s := by
  refine List.forall_mem_map.mpr fun a ha => List.forall_mem_append.mpr ⟨fun s hs => ?_, ?_⟩
  · exact hext.has (h a ha s hs)
  · exact List.forall_mem_singleton.mpr htail

theorem map_symbol_map_append (hsource : source.Intact) (hext : source.Extends store)
    (h : ∀ a ∈ alternatives, ∀ s ∈ a, source.Has s) :
    (alternatives.map (· ++ [tail])).map (·.map store.symbol) =
      (alternatives.map (·.map source.symbol)).map (· ++ [store.symbol tail]) := by
  rw [List.map_map, List.map_map]
  refine List.map_congr_left fun a ha => ?_
  rw [Function.comp_apply, Function.comp_apply, List.map_append, List.map_singleton]
  refine congrArg (· ++ _) (List.map_congr_left fun s hs => ?_)
  exact hsource.symbol_of_extends hext (h a ha s hs)

end Tail

section Production

variable {p : StoredProduction}

theorem Intact.exists_eliminateProduction_of_nil (h : g.Intact) (hold : old.Intact)
    (hext : old.symbols.Extends g.symbols) (hp : p ∈ old.productions)
    (hfound : old.production? p.left = some p) (hnil : p.recursive p.left = [])
    (hnew : old.symbols.symbol p.left ∉ g.view.productions.map Production.left)
    (hstart : g.view.start? ≠ none) :
    ∃ r, eliminateProduction old g p.left = .ok r ∧
      Eliminates g r
        (Predictive.eliminateProductions g.view.symbols [viewProduction old.symbols p]) := by
  have hleft := hold.left_has p hp
  have hdeclared := h.declare (hext.has hleft)
  have hview := h.view_declare_new hold.symbols hext hleft hnew hstart
  have hext' : old.symbols.Extends (g.declare p.left).symbols :=
    (symbols_declare g p.left).symm ▸ hext
  have hothers : ∀ a ∈ p.others p.left, a ∈ p.alternatives :=
    fun a ha => (List.mem_filter.mp ha).1
  have hrecursive : (viewProduction old.symbols p).recursive = [] := by
    rw [recursive_view hold.symbols hleft (hold.right_has p hp), hnil, List.map_nil]
  have hself : viewProduction old.symbols p = ⟨old.symbols.symbol p.left,
      (p.others p.left).map (·.map old.symbols.symbol)⟩ := by
    rw [← others_view hold.symbols hleft (hold.right_has p hp), Production.others,
      List.filter_eq_self.mpr fun a ha => by
        simpa using Production.head?_ne_of_recursive_eq_nil hrecursive ha]
    rfl
  have hadded := hdeclared.view_addAll_last hold.symbols hext' hleft
    (congrArg Grammar.productions hview) hnew
    fun a ha => hold.isAlternative hp (hothers a ha)
  rw [eliminateProduction, hfound, eliminateProductions_cons_of_nil _ _ hrecursive]
  refine ⟨_, if_pos (by rw [hnil]; rfl), ?_, ?_⟩
  · refine .head (.declare (hext.has hleft)) (steps_addAll (hext'.has hleft) ?_)
    exact fun a ha s hs => hext'.has (hold.right_has p hp a (hothers a ha) s hs)
  · rw [hadded, hview, hself]
    rfl

theorem Intact.exists_eliminateProduction_of_ne_nil (h : g.Intact) (hold : old.Intact)
    (hext : old.symbols.Extends g.symbols) (hp : p ∈ old.productions)
    (hfound : old.production? p.left = some p) (hne : p.recursive p.left ≠ [])
    (hnew : old.symbols.symbol p.left ∉ g.view.productions.map Production.left)
    (hstart : g.view.start? ≠ none) :
    ∃ r, eliminateProduction old g p.left = .ok r ∧
      Eliminates g r
        (Predictive.eliminateProductions g.view.symbols [viewProduction old.symbols p]) := by
  have hleft := hold.left_has p hp
  have hdeclared := h.declare (hext.has hleft)
  have hview := h.view_declare_new hold.symbols hext hleft hnew hstart
  have hothers : ∀ a ∈ p.others p.left, ∀ s ∈ a, old.symbols.Has s :=
    fun a ha => hold.right_has p hp a (List.mem_filter.mp ha).1
  have hrecursive : ∀ a ∈ p.recursive p.left, ∀ s ∈ a, old.symbols.Has s := by
    refine List.forall_mem_map.mpr fun a ha s hs => ?_
    exact hold.right_has p hp a (List.mem_filter.mp ha).1 s (List.mem_of_mem_tail hs)
  have hrecursiveView := recursive_view hold.symbols hleft (hold.right_has p hp)
  have hneView : (viewProduction old.symbols p).recursive ≠ [] := by
    rw [hrecursiveView]
    simpa using hne
  obtain ⟨tail, g', hfresh, hview', htail⟩ := hdeclared.exists_fresh (old.nameOf p.left)
  obtain ⟨hintact, hext', hhas, -⟩ := hdeclared.intern hfresh
  have hnot := hdeclared.fresh_notMem_lefts (old.nameOf p.left)
  rw [hview] at hview' htail hnot
  replace hext' : old.symbols.Extends g'.symbols :=
    hext.trans ((symbols_declare g p.left).symm ▸ hext')
  obtain ⟨hsteps, hadded⟩ := hintact.view_addWithTail (hext'.has hleft) hhas
    (has_of_mem_map_append hext' hhas hothers) (has_of_mem_map_append hext' hhas hrecursive)
  rw [eliminateProduction, hfound, eliminateProductions_cons_of_ne_nil _ _ hneView]
  refine ⟨_, (if_neg (by simpa using hne)).trans (by rw [hfresh]; rfl), ?_, ?_⟩
  · exact .head (.declare (hext.has hleft)) (.head (.intern hfresh) hsteps)
  · have hproductions : g'.view.productions =
        g.view.productions ++ [⟨old.symbols.symbol p.left, []⟩] := by rw [hview']; rfl
    have hstart' : g'.view.start? ≠ none := by rw [hview']; exact hstart
    rw [hadded, map_symbol_map_append hold.symbols hext' hothers,
      map_symbol_map_append hold.symbols hext' hrecursive,
      hold.symbols.symbol_of_extends hext' hleft, htail,
      Grammar.addWithTail hproductions hnew hnot hstart' _ (by simpa using hne), hview',
      ← others_view hold.symbols hleft (hold.right_has p hp), ← hrecursiveView,
      hold.nameOf_eq hleft, List.map_map, List.map_map]
    rfl

end Production

theorem Intact.exists_eliminateProductions (h : g.Intact) (hold : old.Intact)
    (hext : old.symbols.Extends g.symbols) {lefts : List Handle}
    (hlefts : ∀ s ∈ lefts, old.symbols.Has s) (hnodup : lefts.Nodup)
    (hnew : ∀ s ∈ lefts, old.symbols.symbol s ∉ g.view.productions.map Production.left)
    (hstart : old.productions ≠ [] → g.view.start? ≠ none) :
    ∃ r, eliminateProductions old g lefts = .ok r ∧
      Eliminates g r (Predictive.eliminateProductions g.view.symbols
        ((lefts.map old.symbols.symbol).filterMap old.view.production?)) := by
  induction lefts generalizing g with
  | nil => exact ⟨g, rfl, .refl, by rw [List.map_nil, List.filterMap_nil,
      Predictive.eliminateProductions, List.append_nil]⟩
  | cons left rest ih =>
      obtain ⟨hleft, hrest⟩ := List.forall_mem_cons.mp hlefts
      obtain ⟨hnot, hrestNodup⟩ := List.nodup_cons.mp hnodup
      obtain ⟨hhead, htail⟩ := List.forall_mem_cons.mp hnew
      rw [eliminateProductions, List.map_cons]
      rcases hold.production?_cases hleft with ⟨hnone, hview⟩ | ⟨p, hp, rfl, hfound, hview⟩
      · have hskip : eliminateProduction old g left = .ok g := by rw [eliminateProduction, hnone]
        rw [hskip, List.filterMap_cons_none hview]
        exact ih h hext hrest hrestNodup htail hstart
      · have hsome := hstart (List.ne_nil_of_mem hp)
        obtain ⟨r, hr, heliminates⟩ : ∃ r, eliminateProduction old g p.left = .ok r ∧
            Eliminates g r (Predictive.eliminateProductions g.view.symbols
              [viewProduction old.symbols p]) := by
          by_cases hnil : p.recursive p.left = []
          · exact h.exists_eliminateProduction_of_nil hold hext hp hfound hnil hhead hsome
          · exact h.exists_eliminateProduction_of_ne_nil hold hext hp hfound hnil hhead hsome
        obtain ⟨hintact, hext'⟩ := heliminates.steps.keeps h
        have hdone : ∀ s ∈ rest,
            old.symbols.symbol s ∉ r.view.productions.map Production.left := by
          intro s hs hmem
          have hleft' := hrest s hs
          have hs' : old.symbols.symbol s ∈ g.view.symbols.symbols :=
            hold.symbols.symbol_of_extends hext hleft' ▸ h.symbols.symbol_mem (hext.has hleft')
          rw [heliminates.view_eq, List.map_append, List.mem_append] at hmem
          rcases hmem with hmem | hmem
          · exact htail s hs hmem
          · rcases mem_lefts_eliminateProductions h.symbols.wellFormed_view hmem with heq | hfresh
            · exact hnot (hold.symbols.symbol_inj hleft' hleft heq ▸ hs)
            · exact hfresh hs'
        obtain ⟨r', hr', heliminates'⟩ := ih hintact (hext.trans hext') hrest hrestNodup hdone
          (fun _ => by rw [heliminates.view_eq]; exact hsome)
        rw [hr, List.filterMap_cons_some hview]
        refine ⟨r', hr', ?_⟩
        have happend := heliminates.append heliminates'
        rwa [heliminates.view_eq, ← eliminateProductions_cons] at happend

/-- An elimination of a store is that of the grammar, and refused for the same cycle. -/
theorem Intact.eliminate (h : g.Intact) :
    (∃ cycle, g.eliminate = .error (.indirectLeftRecursion cycle) ∧
        g.view.eliminate = .error (.indirectLeftRecursion cycle)) ∨
      ∃ r removals, g.eliminate = .ok r ∧ Steps g.deriveEmpty r ∧
        g.view.eliminate = .ok (r.view, removals) := by
  have hstart : g.productions ≠ [] → g.deriveEmpty.view.start? ≠ none :=
    fun hne hnone => h.start_ne hne (Option.map_eq_none_iff.mp hnone)
  cases hcycle : g.view.indirectCycle? with
  | some cycle =>
      exact .inl ⟨cycle, by rw [GrammarStore.eliminate, hcycle], by rw [Grammar.eliminate, hcycle]⟩
  | none =>
      have hhas : ∀ s ∈ g.symbols.nonTerminals, g.symbols.Has s :=
        fun s hs => List.mem_range.mp (List.mem_filter.mp hs).1
      have hnodup : g.symbols.nonTerminals.Nodup := List.nodup_range.filter _
      obtain ⟨r, hr, hsteps, hview⟩ := h.deriveEmpty.exists_eliminateProductions h (.refl _)
        hhas hnodup (fun _ _ => List.not_mem_nil) hstart
      rw [h.symbols.map_symbol_nonTerminals] at hview
      refine .inr ⟨r, g.view.elimination.removals, ?_, hsteps, ?_⟩
      · rw [GrammarStore.eliminate, hcycle]
        dsimp only
        rw [hr]
        rfl
      · rw [Grammar.eliminate_eq_of_indirectCycle? hcycle, hview]
        rfl

end GrammarStore

end Predictive
