import Predictive.Proofs.LeftRecursion.Remainder
import Predictive.Proofs.LeftRecursion.Sets
import Predictive.Proofs.Reading.Entered
import Predictive.Proofs.Reordering.Grammar

/-!
# What an elimination of left recursion leaves as it is

An elimination puts the productions in the order of the symbol table and rewrites those with
recursive alternatives. `RewrittenInto` lists the result next to the productions that it was made
of: one without recursive alternatives is kept, any other one `Splits` into two, from which its
alternatives can be read back, each kind in its order. The symbols, with their places in the table,
and the start symbol stay (`Frame`).

A second elimination has nothing to rewrite unless some remainder can vanish, so it changes the
order of the productions at most. A grammar that was just read has this order already: its left
sides are the first symbols of the table (`productionsInOrder_load`).
-/

namespace Predictive

namespace Alternative

def withoutLast (a : Alternative) : Alternative :=
  orEpsilon a.dropLast

theorem withoutLast_append_tail {a : Alternative} (h : ofSequence a = a) (name : String) :
    withoutLast (ofSequence (a ++ [.nonTerminal name])) = a := by
  rw [Grammar.ofSequence_append_tail, withoutLast, List.dropLast_concat]
  exact h

theorem getLast?_append_tail (α : List Symbol) (name : String) :
    List.getLast? (ofSequence (α ++ [.nonTerminal name])) = some (.nonTerminal name) := by
  rw [Grammar.ofSequence_append_tail, List.getLast?_concat]

end Alternative

namespace Production

/-- The production of `A` gives way to another one and to that of a tail. The alternatives of `A`
that do not begin with `A` are those of the new production without the tail at their end. The others
are those of the tail without it, with `A` in front; only the `ε` at the end of the tail is of
neither kind. -/
structure Splits (p q tail : Production) : Prop where
  recursive : ∃ a ∈ p.alternatives, List.head? a = some p.left
  left_eq : q.left = p.left
  named : ∃ n, tail.left = .nonTerminal (SymbolTable.candidate p.left.name n)
  getLast?_eq : ∀ a ∈ q.alternatives ++ tail.alternatives.dropLast,
    List.getLast? a = some tail.left
  getLast?_tail : tail.alternatives.getLast? = some [.epsilon]
  others_eq : (p.alternatives.filter fun a => List.head? a != some p.left) =
    q.alternatives.map Alternative.withoutLast
  recursive_eq : (p.alternatives.filter fun a => List.head? a == some p.left) =
    tail.alternatives.dropLast.map fun a => p.left :: a.dropLast

theorem Splits.perm {p q tail : Production} (h : p.Splits q tail) :
    (tail.alternatives.dropLast.map (fun a => p.left :: a.dropLast) ++
      q.alternatives.map Alternative.withoutLast).Perm p.alternatives := by
  rw [← h.recursive_eq, ← h.others_eq]
  exact List.filter_append_perm _ _

variable {p : Production}

theorem dropLast_alternatives_tailProduction (p : Production) (tail : Symbol) :
    (p.tailProduction tail).alternatives.dropLast =
      p.recursive.map fun α => Alternative.ofSequence (α ++ [tail]) :=
  List.dropLast_concat

theorem others_eq_map_withTail (hnormal : ∀ a ∈ p.alternatives, Alternative.ofSequence a = a)
    (name : String) :
    p.others = (p.withTail (.nonTerminal name)).alternatives.map Alternative.withoutLast := by
  have hback : ∀ a ∈ p.others, Alternative.withoutLast
      (Alternative.ofSequence (a ++ [.nonTerminal name])) = a :=
    fun a ha => Alternative.withoutLast_append_tail (hnormal a (mem_of_mem_others ha)) name
  rw [withTail, List.map_map]
  exact ((List.map_congr_left hback).trans (List.map_id _)).symm

theorem filter_eq_map_tailProduction (hleft : p.left ≠ .epsilon)
    (hnormal : ∀ a ∈ p.alternatives, Alternative.ofSequence a = a) (name : String) :
    (p.alternatives.filter fun a => List.head? a == some p.left) =
      (p.tailProduction (.nonTerminal name)).alternatives.dropLast.map
        fun a => p.left :: a.dropLast := by
  rw [dropLast_alternatives_tailProduction, List.map_map, recursive, List.map_map]
  refine ((List.map_congr_left fun a ha => ?_).trans (List.map_id _)).symm
  obtain ⟨hmem, hhead⟩ := List.mem_filter.mp ha
  obtain ⟨α, rfl⟩ := List.head?_eq_some_iff.mp (by simpa using hhead)
  -- Behind a left side there is no `ε`, so the tail is put behind `α` as it is.
  have hα : .epsilon ∉ α := Alternative.epsilon_notMem_of_ofSequence_eq hleft (hnormal _ hmem)
  simp only [Function.comp_apply, List.tail_cons, Grammar.ofSequence_append_tail,
    List.dropLast_concat, visible_eq_self hα, id_eq]

theorem splits (hleft : p.left ≠ .epsilon)
    (hnormal : ∀ a ∈ p.alternatives, Alternative.ofSequence a = a) (hp : p.recursive ≠ []) (n : ℕ) :
    p.Splits (p.withTail (.nonTerminal (SymbolTable.candidate p.left.name n)))
      (p.tailProduction (.nonTerminal (SymbolTable.candidate p.left.name n))) where
  recursive := by
    obtain ⟨α, hα⟩ := List.exists_mem_of_ne_nil _ hp
    exact ⟨_, mem_recursive.mp hα, rfl⟩
  left_eq := rfl
  named := ⟨n, rfl⟩
  getLast?_eq := by
    rw [dropLast_alternatives_tailProduction, List.forall_mem_append, List.forall_mem_map]
    refine ⟨fun a ha => ?_, fun α _ => Alternative.getLast?_append_tail α _⟩
    obtain ⟨b, -, rfl⟩ := mem_withTail.mp ha
    exact Alternative.getLast?_append_tail b _
  getLast?_tail := List.getLast?_concat
  others_eq := others_eq_map_withTail hnormal _
  recursive_eq := filter_eq_map_tailProduction hleft hnormal _

end Production

inductive RewrittenInto : List Production → List Production → List Symbol → Prop
  | nil : RewrittenInto [] [] []
  | keep {p : Production} {ps qs : List Production} {tails : List Symbol}
      (hp : ∀ a ∈ p.alternatives, List.head? a ≠ some p.left) (h : RewrittenInto ps qs tails) :
      RewrittenInto (p :: ps) (p :: qs) tails
  | split {p q tail : Production} {ps qs : List Production} {tails : List Symbol}
      (hp : p.Splits q tail) (h : RewrittenInto ps qs tails) :
      RewrittenInto (p :: ps) (q :: tail :: qs) (tail.left :: tails)

theorem rewrittenInto_eliminateProductions (symbols : SymbolTable) {productions : List Production}
    (hleft : ∀ p ∈ productions, p.left ≠ .epsilon)
    (hnormal : ∀ p ∈ productions, ∀ a ∈ p.alternatives, Alternative.ofSequence a = a) :
    RewrittenInto productions (eliminateProductions symbols productions).productions
      (eliminateProductions symbols productions).tails := by
  induction productions generalizing symbols with
  | nil => exact .nil
  | cons p rest ih =>
      obtain ⟨hpleft, hleft⟩ := List.forall_mem_cons.mp hleft
      obtain ⟨hpnormal, hnormal⟩ := List.forall_mem_cons.mp hnormal
      by_cases hp : p.recursive = []
      · rw [eliminateProductions_cons_of_nil symbols rest hp]
        exact .keep (fun a ha => Production.head?_ne_of_recursive_eq_nil hp ha)
          (ih symbols hleft hnormal)
      · rw [eliminateProductions_cons_of_ne_nil symbols rest hp]
        exact .split (Production.splits hpleft hpnormal hp _) (ih _ hleft hnormal)

theorem eliminateProductions_eq_self (symbols : SymbolTable) {productions : List Production}
    (h : ∀ p ∈ productions, p.recursive = []) :
    eliminateProductions symbols productions = ⟨symbols, productions, []⟩ := by
  induction productions with
  | nil => rfl
  | cons p rest ih =>
      obtain ⟨hp, hrest⟩ := List.forall_mem_cons.mp h
      rw [eliminateProductions_cons_of_nil symbols rest hp, ih hrest]

namespace SymbolTable

theorem WellFormed.pairwise_index_symbols {table : SymbolTable} (h : table.WellFormed) :
    table.symbols.Pairwise fun s t => table.index s < table.index t := by
  refine List.pairwise_iff_getElem.mpr fun i j hi hj hij => ?_
  rwa [index, index, h.symbols_nodup.idxOf_getElem i hi, h.symbols_nodup.idxOf_getElem j hj]

/-- Symbols that are taken in behind the others leave these in their places. -/
theorem index_eq_of_prefix {table table' : SymbolTable} (h : table.named <+: table'.named)
    {s : Symbol} (hs : s ∈ table.symbols) : table'.index s = table.index s := by
  obtain ⟨new, hnew⟩ := h
  have hsymbols : table'.symbols = table.symbols ++ new := by
    rw [symbols, ← hnew]
    rfl
  rw [index, hsymbols, List.idxOf_append_of_mem hs, index]

end SymbolTable

namespace Grammar

variable {g : Grammar}

/-! ### One elimination -/

structure Frame (g r : Grammar) : Prop where
  rewritten : ∃ ps tails, ps.Perm g.productions ∧
    ps.Pairwise (fun p q => g.symbols.index p.left < g.symbols.index q.left) ∧
    RewrittenInto ps r.productions tails ∧
    r.symbols.named = g.symbols.named ++ tails ∧ tails.Nodup ∧
    ∀ s ∈ tails, s.name ∉ g.symbols.names
  start?_eq : r.start? = g.start?
  index_eq : ∀ s ∈ g.symbols.symbols, r.symbols.index s = g.symbols.index s

theorem WellFormed.pairwise_index_productionsInOrder (hg : g.WellFormed) :
    g.productionsInOrder.Pairwise fun p q =>
      g.symbols.index p.left < g.symbols.index q.left := by
  have hsymbols : g.nonTerminals.Pairwise fun s t => g.symbols.index s < g.symbols.index t :=
    hg.symbols.pairwise_index_symbols.filter Symbol.isNonTerminal
  have hlefts := hsymbols.filter fun s => (g.production? s).isSome
  rwa [← lefts_productionsInOrder, List.pairwise_map] at hlefts

theorem WellFormed.tails_name_notMem (hg : g.WellFormed) {s : Symbol}
    (hs : s ∈ g.elimination.tails) : s.name ∉ g.symbols.names := by
  have hnodup := (wellFormed_eliminateProductions g.symbols g.productionsInOrder hg.symbols).nodup
  rw [SymbolTable.names, named_eliminateProductions, List.map_append] at hnodup
  obtain ⟨-, -, hdisjoint⟩ := List.nodup_append.mp hnodup
  exact fun hmem => hdisjoint _ hmem _ (List.mem_map_of_mem hs) rfl

theorem WellFormed.frame (hg : g.WellFormed) : g.Frame g.eliminated where
  rewritten := by
    have hmem : ∀ p ∈ g.productionsInOrder, p ∈ g.productions :=
      fun p hp => hg.mem_productionsInOrder.mp hp
    refine ⟨g.productionsInOrder, g.elimination.tails, hg.perm_productionsInOrder,
      hg.pairwise_index_productionsInOrder, ?_, named_eliminated g, hg.tails_nodup.1,
      fun s hs => hg.tails_name_notMem hs⟩
    refine rewrittenInto_eliminateProductions g.symbols (fun p hp => ?_) (fun p hp a ha => ?_)
    · obtain ⟨name, hname⟩ := exists_eq_of_mem_nonTerminals (hg.left_mem p (hmem p hp))
      simp [hname]
    · exact hg.normal _ ((mem_rules_iff _ _ _).mpr ⟨p, hmem p hp, rfl, ha⟩)
  start?_eq := rfl
  index_eq s hs := SymbolTable.index_eq_of_prefix ⟨_, (named_eliminated g).symm⟩ hs

/-! ### Nothing to eliminate -/

theorem recursive_eq_nil_of_hasDirectLeftRecursion_eq_false (h : g.hasDirectLeftRecursion = false)
    {p : Production} (hp : p ∈ g.productions) : p.recursive = [] := by
  refine List.eq_nil_iff_forall_not_mem.mpr fun α hα => ?_
  have hrule := (mem_rules_iff g _ _).mpr ⟨p, hp, rfl, Production.mem_recursive.mp hα⟩
  rw [hasDirectLeftRecursion_iff.mpr ⟨_, _, hrule⟩] at h
  cases h

/-- Without direct left recursion only the order of the productions can change. -/
theorem WellFormed.elimination_of_not_recursive (hg : g.WellFormed)
    (h : g.hasDirectLeftRecursion = false) :
    g.elimination = ⟨g.symbols, g.productionsInOrder, []⟩ :=
  eliminateProductions_eq_self g.symbols fun _ hp =>
    recursive_eq_nil_of_hasDirectLeftRecursion_eq_false h (hg.mem_productionsInOrder.mp hp)

theorem WellFormed.reordered_eliminated (hg : g.WellFormed)
    (h : g.hasDirectLeftRecursion = false) : g.eliminated.Reordered g := by
  have heq := hg.elimination_of_not_recursive h
  refine ⟨hg.eliminated, hg, ?_, ?_, rfl⟩
  · rw [Grammar.eliminated, heq]
    exact hg.perm_productionsInOrder
  · rw [Grammar.eliminated, heq]

/-- A second elimination only puts the productions in order, if no remainder vanished. -/
theorem WellFormed.eliminate_eliminated (hg : g.WellFormed) (hcycle : g.indirectCycle? = none)
    (hrest : ¬ g.HasVanishingRemainder) :
    ∃ r', g.eliminated.eliminate = .ok (r', []) ∧ r'.symbols = g.eliminated.symbols ∧
      r'.start? = g.eliminated.start? ∧ ∀ s, r'.production? s = g.eliminated.production? s := by
  have hnone := mt (hg.leftRecursion_eliminated_iff hcycle).mp hrest
  have hdirect : g.eliminated.hasDirectLeftRecursion = false := by
    simpa using mt Or.inl hnone
  have hindirect : g.eliminated.indirectCycle? = none := by
    simpa using mt Or.inr hnone
  have heq := hg.eliminated.elimination_of_not_recursive hdirect
  refine ⟨g.eliminated.eliminated, ?_, ?_, rfl, fun s => ?_⟩
  · rw [eliminate_eq_of_indirectCycle? hindirect, heq]
  · rw [Grammar.eliminated, heq]
  · exact (hg.eliminated.reordered_eliminated hdirect).production?_eq s

/-! ### Grammars that were just read -/

theorem WellFormed.productionsInOrder_eq (hg : g.WellFormed)
    (h : g.productions.map Production.left <+: g.symbols.named) :
    g.productionsInOrder = g.productions := by
  obtain ⟨rest, hnamed⟩ := h
  have hnodup := hg.symbols.named_nodup
  rw [← hnamed] at hnodup
  obtain ⟨-, -, hdisjoint⟩ := List.nodup_append.mp hnodup
  have hlefts : (g.productions.map Production.left).filter Symbol.isNonTerminal =
      g.productions.map Production.left := by
    refine List.filter_eq_self.mpr fun s hs => ?_
    obtain ⟨p, hp, rfl⟩ := List.mem_map.mp hs
    exact (mem_nonTerminals.mp (hg.left_mem p hp)).2
  have hnone : (rest.filter Symbol.isNonTerminal).filterMap g.production? = [] := by
    refine List.filterMap_eq_nil_iff.mpr fun s hs => ?_
    by_contra hsome
    have hleft := isSome_production?_iff.mp (Option.isSome_iff_ne_none.mpr hsome)
    exact hdisjoint s hleft s (List.mem_filter.mp hs).1 rfl
  have hown : (g.productions.map Production.left).filterMap g.production? = g.productions := by
    rw [List.filterMap_map]
    refine (List.filterMap_congr fun p hp => ?_).trans List.filterMap_some
    exact hg.production?_left hp
  have hnonTerminals : g.nonTerminals = g.symbols.named.filter Symbol.isNonTerminal := rfl
  rw [productionsInOrder, hnonTerminals, ← hnamed, List.filter_append, List.filterMap_append,
    hlefts, hown, hnone, List.append_nil]

theorem productionsInOrder_load (lexing : Lexing) (text : String) :
    (load lexing text).1.productionsInOrder = (load lexing text).1.productions :=
  (wellFormed_load lexing text).productionsInOrder_eq (prefix_lefts_load lexing text)

/-- An elimination finds nothing to do in a grammar that was just read and has no directly
left-recursive alternative. -/
theorem eliminated_load (lexing : Lexing) (text : String)
    (h : (load lexing text).1.hasDirectLeftRecursion = false) :
    (load lexing text).1.eliminated = (load lexing text).1 := by
  rw [Grammar.eliminated, (wellFormed_load lexing text).elimination_of_not_recursive h,
    productionsInOrder_load]

/-! ### Grammars that were factored -/

/-- An elimination rewrites what is directly left-recursive and nothing else, so that the
alternatives can be read back. Doing it again changes nothing, if no remainder can vanish, and doing
it to a grammar that was just read and is not directly left-recursive changes nothing either. -/
theorem eliminate_frame (lexing : Lexing) (text : String) (n : ℕ) {r : Grammar}
    {removals : List Removal}
    (h : (Grammar.factor^[n] (load lexing text).1).eliminate = .ok (r, removals)) :
    (Grammar.factor^[n] (load lexing text).1).Frame r ∧
    (¬ (Grammar.factor^[n] (load lexing text).1).HasVanishingRemainder →
      ∃ r', r.eliminate = .ok (r', []) ∧ r'.symbols = r.symbols ∧ r'.start? = r.start? ∧
        ∀ s, r'.production? s = r.production? s) ∧
    (n = 0 → (load lexing text).1.hasDirectLeftRecursion = false → r = (load lexing text).1) := by
  have hg := (wellFormed_load lexing text).iterate_factor n
  obtain rfl := eq_eliminated_of_eliminate h
  refine ⟨hg.frame, hg.eliminate_eliminated (indirectCycle?_of_eliminate h), ?_⟩
  rintro rfl hdirect
  exact eliminated_load lexing text hdirect

/-- A grammar with a recursive production, and one without that was just read. -/
theorem eliminate_frame_sums :
    let g := Grammar.factor^[1] (load .compact "E -> E + T | T\nT -> x").1
    let k := (load .compact "S -> a S b | T\nT -> c").1
    g.eliminate = .ok (g.eliminated, g.elimination.removals) ∧ g.Frame g.eliminated ∧
      (∃ r', g.eliminated.eliminate = .ok (r', []) ∧ r'.symbols = g.eliminated.symbols) ∧
      k.eliminate = .ok (k.eliminated, k.elimination.removals) ∧ k.eliminated = k := by
  have hnone : (Grammar.factor^[1]
      (load .compact "E -> E + T | T\nT -> x").1).indirectCycle? = none := by cbv
  have hdirect : (Grammar.factor^[1]
      (load .compact "E -> E + T | T\nT -> x").1).eliminated.hasDirectLeftRecursion = false := by
    cbv
  have hindirect : (Grammar.factor^[1]
      (load .compact "E -> E + T | T\nT -> x").1).eliminated.indirectCycle?.isSome = false := by
    cbv
  have hnone' : (load .compact "S -> a S b | T\nT -> c").1.indirectCycle? = none := by cbv
  have hdirect' : (load .compact "S -> a S b | T\nT -> c").1.hasDirectLeftRecursion = false := by
    cbv
  intro g k
  have hg : g.WellFormed := (wellFormed_load _ _).iterate_factor 1
  have hrest : ¬ g.HasVanishingRemainder := by
    rw [← hg.leftRecursion_eliminated_iff hnone]
    rintro (h | h)
    · exact Bool.false_ne_true (hdirect.symm.trans h)
    · exact Bool.false_ne_true (hindirect.symm.trans h)
  have heliminate := eliminate_eq_of_indirectCycle? hnone
  have heliminate' := eliminate_eq_of_indirectCycle? hnone'
  obtain ⟨hframe, hagain, -⟩ := eliminate_frame .compact _ 1 heliminate
  obtain ⟨-, -, hsame⟩ := eliminate_frame .compact _ 0 heliminate'
  obtain ⟨r', hok, hsymbols, -⟩ := hagain hrest
  exact ⟨heliminate, hframe, ⟨r', hok, hsymbols⟩, heliminate', hsame rfl hdirect'⟩

end Grammar

end Predictive
