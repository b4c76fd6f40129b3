import Predictive.Grammar.Overlap

/-!
# Groups of alternatives

The alternatives of a production are grouped by the symbol that they begin with, in the order of
the first members. The empty word begins with no symbol, so it is always on its own. A group of
several alternatives is kept as the symbol they share and what comes after it.

Main facts: the members of a group are some of the alternatives in their order (`sublist_of_mem`),
and no two groups begin with the same symbol (`pairwise_leading?`).
-/

namespace Predictive

/-- Alternatives that are treated alike: one on its own, or several that begin with the same
symbol, given by what comes after it. -/
inductive Group
  | single (alternative : Alternative)
  | shared (head : Symbol) (suffixes : List (List Symbol))

namespace Group

/-- The symbol that the members of a group begin with. -/
def leading? : Group → Option Symbol
  | single a => Alternative.leading? a
  | shared s _ => some s

def members : Group → List Alternative
  | single a => [a]
  | shared s suffixes => suffixes.map (s :: ·)

def beginningWith (s : Symbol) (alternatives : List Alternative) : List Alternative :=
  alternatives.filter fun a => Alternative.leading? a == some s

def notBeginningWith (s : Symbol) (alternatives : List Alternative) : List Alternative :=
  alternatives.filter fun a => !(Alternative.leading? a == some s)

/-- The group of an alternative that begins with `s` and the others that do. -/
def ofMembers (s : Symbol) (a : Alternative) : List Alternative → Group
  | [] => single a
  | b :: others => shared s ((a :: b :: others).map List.tail)

theorem length_notBeginningWith_le (s : Symbol) (alternatives : List Alternative) :
    (notBeginningWith s alternatives).length ≤ alternatives.length :=
  List.length_filter_le _ _

/-- The groups of a list of alternatives, in the order of their first members. -/
def ofAlternatives : List Alternative → List Group
  | [] => []
  | a :: rest =>
    match Alternative.leading? a with
    | none => single a :: ofAlternatives rest
    | some s => ofMembers s a (beginningWith s rest) :: ofAlternatives (notBeginningWith s rest)
termination_by alternatives => alternatives.length
decreasing_by
  · simp
  · have := length_notBeginningWith_le s rest
    simp only [List.length_cons]
    omega

theorem leading?_eq_of_mem_beginningWith {s : Symbol} {a : Alternative}
    {alternatives : List Alternative} (h : a ∈ beginningWith s alternatives) :
    Alternative.leading? a = some s := by
  simpa using (List.mem_filter.mp h).2

theorem leading?_ofMembers {s : Symbol} {a : Alternative} (h : Alternative.leading? a = some s)
    (others : List Alternative) : (ofMembers s a others).leading? = some s := by
  cases others with
  | nil => exact h
  | cons b others => rfl

theorem members_ofMembers {s : Symbol} {a : Alternative} {others : List Alternative}
    (h : ∀ b ∈ a :: others, Alternative.leading? b = some s) :
    (ofMembers s a others).members = a :: others := by
  cases others with
  | nil => rfl
  | cons b others =>
      rw [ofMembers, members, List.map_map]
      conv => rhs; rw [← List.map_id (a :: b :: others)]
      exact List.map_congr_left fun c hc =>
        (Alternative.eq_cons_of_leading?_eq_some (h c hc)).1.symm

theorem leading?_beginningWith {s : Symbol} {a : Alternative} (h : Alternative.leading? a = some s)
    (rest : List Alternative) :
    ∀ b ∈ a :: beginningWith s rest, Alternative.leading? b = some s := by
  intro b hb
  rcases List.mem_cons.mp hb with rfl | hb
  · exact h
  · exact leading?_eq_of_mem_beginningWith hb

/-- The members of a group are some of the alternatives, in their order. -/
theorem sublist_of_mem {alternatives : List Alternative} {group : Group}
    (h : group ∈ ofAlternatives alternatives) : group.members.Sublist alternatives := by
  fun_induction ofAlternatives alternatives with
  | case1 => cases h
  | case2 a rest hhead ih =>
      rcases List.mem_cons.mp h with rfl | h
      · exact (List.nil_sublist rest).cons_cons a
      · exact (ih h).cons a
  | case3 a rest s hhead ih =>
      rcases List.mem_cons.mp h with rfl | h
      · rw [members_ofMembers (leading?_beginningWith hhead rest)]
        exact List.filter_sublist.cons_cons a
      · exact ((ih h).trans List.filter_sublist).cons a

/-- Only several alternatives are given by a shared symbol, and `ε` is never shared. -/
theorem two_le_of_shared_mem {alternatives : List Alternative} {s : Symbol}
    {suffixes : List (List Symbol)} (h : shared s suffixes ∈ ofAlternatives alternatives) :
    2 ≤ suffixes.length ∧ s ≠ .epsilon := by
  fun_induction ofAlternatives alternatives with
  | case1 => cases h
  | case2 a rest hhead ih =>
      rcases List.mem_cons.mp h with h | h
      · cases h
      · exact ih h
  | case3 a rest s' hhead ih =>
      rcases List.mem_cons.mp h with h | h
      · cases hothers : beginningWith s' rest with
        | nil =>
            rw [hothers] at h
            cases h
        | cons b others =>
            rw [hothers] at h
            cases h
            exact ⟨by simp, (Alternative.eq_cons_of_leading?_eq_some hhead).2⟩
      · exact ih h

theorem leading?_mem {alternatives : List Alternative} {group : Group}
    (h : group ∈ ofAlternatives alternatives) :
    ∃ a ∈ alternatives, Alternative.leading? a = group.leading? := by
  cases group with
  | single a => exact ⟨a, (sublist_of_mem h).subset (by simp [members]), rfl⟩
  | shared s suffixes =>
      obtain ⟨hlen, hs⟩ := two_le_of_shared_mem h
      cases suffixes with
      | nil => simp at hlen
      | cons suffix suffixes =>
          exact ⟨s :: suffix, (sublist_of_mem h).subset (by simp [members]),
            Alternative.leading?_cons hs suffix⟩

/-- No two groups begin with the same symbol. -/
theorem pairwise_leading? (alternatives : List Alternative) :
    (ofAlternatives alternatives).Pairwise
      fun g h => g.leading? = none ∨ g.leading? ≠ h.leading? := by
  fun_induction ofAlternatives alternatives with
  | case1 => exact .nil
  | case2 a rest hhead ih => exact .cons (fun _ _ => .inl hhead) ih
  | case3 a rest s hhead ih =>
      refine .cons (fun h hmem => .inr ?_) ih
      obtain ⟨c, hc, hchead⟩ := leading?_mem hmem
      rw [leading?_ofMembers hhead, ← hchead]
      intro heq
      have hne := (List.mem_filter.mp hc).2
      simp [← heq] at hne

end Group

end Predictive
