import Predictive.Proofs.Reading.Load

/-!
# Building a grammar production by production

A stage that writes its result production by production declares a left side and adds its
alternatives one at a time. As long as the left side is that of the last production, or of none,
this only ever touches the end of the list (`addAll_last`, `addAll_new`), so the result can be read
off as a list of productions (`addProductions_eq`).
-/

namespace Predictive

namespace Grammar

def addAll (g : Grammar) (left : Symbol) (sequences : List (List Symbol)) : Grammar :=
  sequences.foldl (fun g sequence => g.add left sequence) g

variable {g : Grammar} {left : Symbol} {pre : List Production} {alternatives : List Alternative}

theorem declare_of_notMem (hleft : left ∉ g.productions.map Production.left)
    (hstart : g.start? ≠ none) :
    g.declare left = { g with productions := g.productions ++ [⟨left, []⟩] } := by
  obtain ⟨start, hstart⟩ := Option.ne_none_iff_exists'.mp hstart
  rw [declare, if_neg (mt isSome_production?_iff.mp hleft), hstart]
  rfl

theorem declare_declare (g : Grammar) (left : Symbol) :
    (g.declare left).declare left = g.declare left := by
  refine declare_eq_self ?_
  unfold declare
  split
  · assumption
  · simp [production?]

theorem add_last (hg : g.productions = pre ++ [⟨left, alternatives⟩])
    (hleft : left ∉ pre.map Production.left) (sequence : List Symbol) :
    g.add left sequence =
      { g with productions := pre ++ [⟨left, alternatives ++ [.ofSequence sequence]⟩] } := by
  have hpre : pre.map (·.appendFor left (.ofSequence sequence)) = pre := by
    conv => rhs; rw [← List.map_id pre]
    refine List.map_congr_left fun p hp => if_neg ?_
    rintro rfl
    exact hleft (List.mem_map_of_mem hp)
  rw [add_eq (by simp [hg]), hg, List.map_append, hpre, List.map_singleton,
    Production.appendFor, if_pos rfl]

theorem addAll_last (hg : g.productions = pre ++ [⟨left, alternatives⟩])
    (hleft : left ∉ pre.map Production.left) (sequences : List (List Symbol)) :
    g.addAll left sequences =
      { g with productions := pre ++ [⟨left, alternatives ++ sequences.map .ofSequence⟩] } := by
  induction sequences generalizing g alternatives with
  | nil => rw [List.map_nil, List.append_nil, ← hg, addAll, List.foldl_nil]
  | cons sequence rest ih =>
      rw [addAll, List.foldl_cons, ← addAll, add_last hg hleft, ih rfl, List.append_assoc]
      rfl

theorem addAll_new (hleft : left ∉ g.productions.map Production.left) (hstart : g.start? ≠ none)
    {sequences : List (List Symbol)} (hne : sequences ≠ []) :
    g.addAll left sequences =
      { g with productions := g.productions ++ [⟨left, sequences.map .ofSequence⟩] } := by
  have hdeclared : g.addAll left sequences = (g.declare left).addAll left sequences := by
    cases sequences with
    | nil => exact absurd rfl hne
    | cons sequence rest =>
        rw [addAll, addAll, List.foldl_cons, List.foldl_cons, add, add, declare_declare]
  rw [hdeclared, declare_of_notMem hleft hstart, addAll_last rfl hleft, List.nil_append]

def addProductions (g : Grammar) (new : List (Symbol × List (List Symbol))) : Grammar :=
  new.foldl (fun g p => g.addAll p.1 p.2) g

theorem addProductions_eq {new : List (Symbol × List (List Symbol))}
    (hnodup : (new.map Prod.fst).Nodup)
    (hnew : ∀ s ∈ new.map Prod.fst, s ∉ g.productions.map Production.left)
    (hstart : g.start? ≠ none) (hne : ∀ p ∈ new, p.2 ≠ []) :
    g.addProductions new = { g with
      productions := g.productions ++ new.map fun p => ⟨p.1, p.2.map .ofSequence⟩ } := by
  induction new generalizing g with
  | nil => rw [List.map_nil, List.append_nil, addProductions, List.foldl_nil]
  | cons p rest ih =>
      obtain ⟨hp, hrest⟩ := List.forall_mem_cons.mp hne
      obtain ⟨hnot, hnodup⟩ := List.nodup_cons.mp hnodup
      obtain ⟨hhead, htail⟩ := List.forall_mem_cons.mp hnew
      have hnew' : ∀ s ∈ rest.map Prod.fst, s ∉
          (g.productions ++ [Production.mk p.1 (p.2.map .ofSequence)]).map Production.left := by
        intro s hs
        rw [List.map_append, List.map_singleton, List.mem_append, List.mem_singleton, not_or]
        refine ⟨htail s hs, ?_⟩
        rintro rfl
        exact hnot hs
      rw [addProductions, List.foldl_cons, ← addProductions, addAll_new hhead hstart hp,
        ih (g := { g with productions := _ }) hnodup hnew' hstart hrest, List.append_assoc]
      rfl

/-- The last production gets its alternatives, and a new one behind it gets its own and `ε`. -/
theorem addWithTail (hg : g.productions = pre ++ [⟨left, []⟩])
    (hleft : left ∉ pre.map Production.left) {tail : Symbol}
    (htail : tail ∉ (pre ++ [Production.mk left []]).map Production.left)
    (hstart : g.start? ≠ none) (others : List (List Symbol)) {recursive : List (List Symbol)}
    (hne : recursive ≠ []) :
    ((g.addAll left others).addAll tail recursive).add tail [.epsilon] = { g with
      productions := pre ++ [⟨left, others.map .ofSequence⟩,
        ⟨tail, recursive.map Alternative.ofSequence ++ [[.epsilon]]⟩] } := by
  have htail' : tail ∉ (pre ++ [Production.mk left (others.map .ofSequence)]).map
      Production.left := by
    simpa using htail
  rw [addAll_last hg hleft, List.nil_append,
    addAll_new (g := { g with productions := _ }) htail' hstart hne, add_last rfl htail']
  exact congrArg (Grammar.mk g.symbols · g.start?) (List.append_assoc pre _ _)

end Grammar

end Predictive
