import Mathlib.Data.List.Chain
import Mathlib.Logic.Relation
import Predictive.LeftRecursion.Cycle

/-!
# What the search for a cycle finds

A closed walk goes along a relation and ends where it began; it is a simple cycle when it visits no
vertex twice before that. The search answers with a simple cycle of its edges
(`simpleCycle_of_explore_eq_error`), because the path from the root is a walk without repetition.

That it finds one whenever there is one is told through accessibility: a vertex is accessible when
no walk from it goes on for ever. The vertices that the search has left behind are accessible, and
this is the whole invariant (`acc_of_explore_eq_ok`). A vertex that is still on the path is not
required to be; it becomes accessible when the search is through with what lies behind it.
-/

namespace Predictive

structure ClosedWalk (R : Symbol → Symbol → Prop) (walk : List Symbol) : Prop where
  two_le : 2 ≤ walk.length
  head?_eq : walk.head? = walk.getLast?
  chain : walk.IsChain R

/-- A closed walk whose vertices are pairwise distinct, the last one aside. -/
structure SimpleCycle (R : Symbol → Symbol → Prop) (walk : List Symbol) : Prop
    extends ClosedWalk R walk where
  nodup : walk.dropLast.Nodup

section Walks

variable {R S : Symbol → Symbol → Prop} {walk : List Symbol}

theorem ClosedWalk.mono (h : ClosedWalk R walk) (hRS : ∀ v w, R v w → S v w) :
    ClosedWalk S walk where
  two_le := h.two_le
  head?_eq := h.head?_eq
  chain := h.chain.imp hRS

theorem SimpleCycle.mono (h : SimpleCycle R walk) (hRS : ∀ v w, R v w → S v w) :
    SimpleCycle S walk where
  toClosedWalk := h.toClosedWalk.mono hRS
  nodup := h.nodup

theorem ClosedWalk.exists_transGen (h : ClosedWalk R walk) : ∃ v, Relation.TransGen R v v := by
  match walk, h with
  | [], h => exact absurd h.two_le (by simp)
  | [v], h => exact absurd h.two_le (by simp)
  | v :: w :: rest, h =>
      have hlast : (w :: rest).getLast (by simp) = v := by
        have heq := h.head?_eq
        rw [List.head?_cons, List.getLast?_cons_cons,
          List.getLast?_eq_some_getLast (by simp)] at heq
        exact (Option.some.inj heq).symm
      obtain ⟨hvw, hchain⟩ := List.isChain_cons_cons.mp h.chain
      have hback := List.relationReflTransGen_of_exists_isChain_cons rest hchain hlast
      exact ⟨v, .head' hvw hback⟩

/-- No walk from an accessible vertex comes back to it. -/
theorem not_transGen_of_acc {v : Symbol} (h : Acc (fun w v => R v w) v) :
    ¬ Relation.TransGen R v v := by
  induction h with
  | intro v _ ih =>
      intro hloop
      obtain ⟨w, hvw, hwv⟩ := Relation.TransGen.head'_iff.mp hloop
      exact ih w hvw (.tail' hwv hvw)

end Walks

section Search

variable {edges : Symbol → List Symbol}

theorem exists_dropWhile_eq_cons {path : List Symbol} {v : Symbol} (h : v ∈ path) :
    ∃ rest, path.dropWhile (· != v) = v :: rest := by
  induction path with
  | nil => cases h
  | cons u path ih =>
      by_cases hu : u = v
      · exact ⟨path, by simp [hu]⟩
      · have hmem : v ∈ path := (List.mem_cons.mp h).resolve_left (Ne.symm hu)
        obtain ⟨rest, hrest⟩ := ih hmem
        exact ⟨rest, by simp [hu, hrest]⟩

theorem isChain_concat {R : Symbol → Symbol → Prop} {path : List Symbol} {v : Symbol}
    (hchain : path.IsChain R) (hv : ∀ u ∈ path.getLast?, R u v) : (path ++ [v]).IsChain R := by
  refine List.isChain_append.mpr ⟨hchain, List.isChain_singleton v, ?_⟩
  intro u hu w hw
  obtain rfl : v = w := by simpa using hw
  exact hv u hu

/-- An edge back into a path without repetition closes a cycle. -/
theorem simpleCycle_dropWhile {R : Symbol → Symbol → Prop} {path : List Symbol} {v : Symbol}
    (hchain : path.IsChain R) (hnodup : path.Nodup) (hv : v ∈ path)
    (hback : ∀ u ∈ path.getLast?, R u v) :
    SimpleCycle R (path.dropWhile (· != v) ++ [v]) := by
  have hsuffix : path.dropWhile (· != v) <:+ path := List.dropWhile_suffix _
  obtain ⟨rest, hrest⟩ := exists_dropWhile_eq_cons hv
  have hlast : (path.dropWhile (· != v)).getLast? = path.getLast? := by
    conv_rhs => rw [← List.takeWhile_append_dropWhile (p := (· != v)) (l := path)]
    rw [List.getLast?_append_of_ne_nil _ (by simp [hrest])]
  refine ⟨⟨?_, ?_, ?_⟩, ?_⟩
  · simp [hrest]
  · rw [List.getLast?_concat, hrest, List.cons_append, List.head?_cons]
  · exact isChain_concat (hchain.suffix hsuffix) (fun u hu => hback u (hlast ▸ hu))
  · rw [List.dropLast_concat]
    exact hnodup.sublist hsuffix.sublist

/-- A search along a path without repetition answers with a simple cycle. -/
theorem simpleCycle_of_explore_eq_error {fresh path todo cycle : List Symbol}
    (hchain : path.IsChain fun v w => w ∈ edges v) (hnodup : path.Nodup)
    (htodo : ∀ v ∈ todo, ∀ u ∈ path.getLast?, v ∈ edges u)
    (h : explore edges fresh path todo = .error cycle) :
    SimpleCycle (fun v w => w ∈ edges v) cycle := by
  fun_induction explore edges fresh path todo with
  | case1 => cases h
  | case2 fresh path v todo hv =>
      cases h
      exact simpleCycle_dropWhile hchain hnodup hv (htodo v List.mem_cons_self)
  | case3 fresh path v todo hv hfresh cycle' hbelow ih =>
      cases h
      have hpath : (path ++ [v]).Nodup := by
        rw [List.nodup_append]
        exact ⟨hnodup, by simp, by rintro u hu w hw rfl; simp_all⟩
      apply ih (isChain_concat hchain (htodo v List.mem_cons_self)) hpath _ hbelow
      intro w hw u hu
      obtain rfl : v = u := by simpa using hu
      exact hw
  | case4 fresh path v todo hv hfresh below hbelow cycle' hrest ih₁ ih₂ =>
      cases h
      exact ih₂ hchain hnodup (fun w hw => htodo w (List.mem_cons_of_mem v hw)) hrest
  | case5 fresh path v todo hv hfresh below hbelow rest hrest ih₁ ih₂ => cases h
  | case6 fresh path v todo hv hfresh ih =>
      exact ih hchain hnodup (fun w hw => htodo w (List.mem_cons_of_mem v hw)) h

/-- When a search ends without a cycle, the vertices it looked at and those it has left behind are
accessible, if those left behind before were. -/
theorem acc_of_explore_eq_ok {fresh path todo : List Symbol}
    {rest : { rest : List Symbol // rest.Sublist fresh }}
    (hbehind : ∀ v, v ∉ fresh → v ∉ path → Acc (fun w v => w ∈ edges v) v)
    (h : explore edges fresh path todo = .ok rest) :
    (∀ v ∈ todo, Acc (fun w v => w ∈ edges v) v) ∧
      ∀ v, v ∉ rest.1 → v ∉ path → Acc (fun w v => w ∈ edges v) v := by
  fun_induction explore edges fresh path todo with
  | case1 fresh path =>
      cases h
      exact ⟨by simp, hbehind⟩
  | case2 => cases h
  | case3 => cases h
  | case4 => cases h
  | case5 fresh path v todo hv hfresh below hbelow rest' hrest ih₁ ih₂ =>
      cases h
      -- While the search is below `v`, the symbols left behind are those from before; `v` is on the
      -- path and joins them only when all its edges have been looked at.
      obtain ⟨hedges, hafter⟩ := ih₁ (fun u hu hpath => hbehind u
        (fun hmem => hu ((List.mem_erase_of_ne (by rintro rfl; simp at hpath)).mpr hmem))
        (fun hmem => hpath (List.mem_append_left _ hmem))) hbelow
      have hself : Acc (fun w v => w ∈ edges v) v := Acc.intro v hedges
      obtain ⟨htodo, hleft⟩ := ih₂ (fun u hu hpath => by
        by_cases heq : u = v
        · exact heq ▸ hself
        · exact hafter u hu (by simp [hpath, heq])) hrest
      exact ⟨List.forall_mem_cons.mpr ⟨hself, htodo⟩, hleft⟩
  | case6 fresh path v todo hv hfresh ih =>
      obtain ⟨htodo, hleft⟩ := ih hbehind h
      exact ⟨List.forall_mem_cons.mpr ⟨hbehind v hfresh hv, htodo⟩, hleft⟩

end Search

end Predictive
