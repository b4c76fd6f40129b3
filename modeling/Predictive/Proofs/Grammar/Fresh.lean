import Predictive.Proofs.Reading.Legible
import Predictive.Proofs.Reordering.Fresh

/-!
# Requests for new names

A request names a base, and its answer is a new non-terminal. `Answers` says what can be relied on:
the answer has the first candidate for the base that is no name of the grammar, the table takes it
in as it would a symbol of a text, and the rest of the grammar stays as it was. Every grammar at all
gives such an answer to every base, one that was built by hand included, since no more is used of a
table than that it has finitely many names.

Of several requests, those for one base are answered as if no other base had been asked for
(`freshFor_eq`): a name that is given out for another base is no candidate for this one.
-/

namespace Predictive

namespace Grammar

/-- The symbol is a new one for the base, and `g'` is the grammar with it. -/
structure Answers (g : Grammar) (base : String) (s : Symbol) (g' : Grammar) : Prop where
  first_free : ∃ n, s = .nonTerminal (SymbolTable.candidate base n) ∧
    SymbolTable.candidate base n ∉ g.symbols.names ∧
    ∀ m < n, SymbolTable.candidate base m ∈ g.symbols.names
  intern_eq : g.intern s = .ok g'
  symbols_eq : g'.symbols.symbols = g.symbols.symbols ++ [s]
  productions_eq : g'.productions = g.productions
  start?_eq : g'.start? = g.start?
  isNonTerminalName : isNonTerminalName base.toList = true →
    isNonTerminalName s.name.toList = true

theorem intern_fresh (g : Grammar) (base : String) :
    g.intern (g.fresh base).1 = .ok (g.fresh base).2 := by
  have hintern := SymbolTable.intern_eq_push (SymbolTable.nameable_fresh g.symbols base)
    (SymbolTable.freshName_notMem g.symbols base)
  rw [intern, fresh, hintern]
  rfl

theorem answers_fresh (g : Grammar) (base : String) :
    g.Answers base (g.fresh base).1 (g.fresh base).2 where
  first_free := ⟨_, rfl, SymbolTable.freshName_notMem g.symbols base,
    fun _ => SymbolTable.candidate_mem_of_lt_freshIndex⟩
  intern_eq := g.intern_fresh base
  symbols_eq := SymbolTable.symbols_push _ _
  productions_eq := rfl
  start?_eq := rfl
  isNonTerminalName hbase := by
    have hleft : (Symbol.nonTerminal base).IsLeftName := ⟨rfl, hbase⟩
    exact (hleft.candidate _).name

/-! ### Several requests -/

def freshAll (g : Grammar) : List String → List Symbol
  | [] => []
  | base :: rest => (g.fresh base).1 :: (g.fresh base).2.freshAll rest

def freshFor (g : Grammar) (base : String) (bases : List String) : List Symbol :=
  ((bases.zip (g.freshAll bases)).filter fun r => r.1 = base).map Prod.snd

theorem freshFor_cons (g : Grammar) (base other : String) (rest : List String) :
    g.freshFor base (other :: rest) =
      if other = base then (g.fresh other).1 :: (g.fresh other).2.freshFor base rest
      else (g.fresh other).2.freshFor base rest := by
  by_cases h : other = base <;> simp [freshFor, freshAll, h]

theorem fst_fresh_fresh (g : Grammar) {base other : String} (hne : other ≠ base) :
    ((g.fresh other).2.fresh base).1 = (g.fresh base).1 :=
  (SymbolTable.sameCandidates_fresh hne.symm g.symbols).fst_fresh_eq.symm

theorem freshFor_eq_of_sameCandidates {base : String} {g g' : Grammar}
    (h : SymbolTable.SameCandidates base g.symbols g'.symbols) (bases : List String) :
    g.freshFor base bases = g'.freshAll (List.replicate (bases.count base) base) := by
  induction bases generalizing g g' with
  | nil => rfl
  | cons other rest ih =>
      rw [freshFor_cons]
      by_cases heq : other = base
      · subst heq
        have hhead : (g.fresh other).1 = (g'.fresh other).1 := h.fst_fresh_eq
        have hnext : SymbolTable.SameCandidates other (g.fresh other).2.symbols
            (g'.fresh other).2.symbols := h.fresh
        rw [if_pos rfl, List.count_cons_self, List.replicate_succ, freshAll, hhead, ih hnext]
      · have hskip := SymbolTable.sameCandidates_fresh (Ne.symm heq) g.symbols
        rw [if_neg heq, List.count_cons_of_ne heq, ih (hskip.symm.trans h)]

/-- The answers for a base are those to the requests for this base alone. -/
theorem freshFor_eq (g : Grammar) (base : String) (bases : List String) :
    g.freshFor base bases = g.freshAll (List.replicate (bases.count base) base) :=
  freshFor_eq_of_sameCandidates (.refl base g.symbols) bases

/-- Every request is answered with the first free name and changes nothing else, and what is asked
for other bases, before it or in between, does not change the answer. -/
theorem fresh_answers_alone (g : Grammar) (base : String) :
    g.Answers base (g.fresh base).1 (g.fresh base).2 ∧
      (∀ other, other ≠ base → ((g.fresh other).2.fresh base).1 = (g.fresh base).1) ∧
      ∀ bases, g.freshFor base bases = g.freshAll (List.replicate (bases.count base) base) :=
  ⟨g.answers_fresh base, fun _ => g.fst_fresh_fresh, g.freshFor_eq base⟩

/-- Two candidates for `A` are taken, and one of them is a base itself. -/
theorem fresh_answers_alone_taken :
    let g := (load .compact "A -> A' A'1 | a").1
    g.Answers "A" (.nonTerminal "A'2") (g.fresh "A").2 ∧ "A'" ≠ "A" ∧
      ((g.fresh "A'").2.fresh "A").1 = .nonTerminal "A'2" ∧
      g.freshFor "A" ["A'", "A", "A'", "A"] = [.nonTerminal "A'2", .nonTerminal "A'3"] := by
  have hfirst : ((load .compact "A -> A' A'1 | a").1.fresh "A").1 = .nonTerminal "A'2" := by cbv
  have halone : (load .compact "A -> A' A'1 | a").1.freshAll ["A", "A"] =
      [.nonTerminal "A'2", .nonTerminal "A'3"] := by cbv
  have hcount : List.replicate (["A'", "A", "A'", "A"].count "A") "A" = ["A", "A"] := by decide
  have hne : "A'" ≠ "A" := by decide
  intro g
  obtain ⟨hanswers, hother, hfor⟩ := fresh_answers_alone g "A"
  refine ⟨?_, hne, ?_, ?_⟩
  · rwa [hfirst] at hanswers
  · rw [hother "A'" hne, hfirst]
  · rw [hfor, hcount, halone]

end Grammar

end Predictive
