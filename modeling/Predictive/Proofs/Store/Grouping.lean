import Predictive.Grammar.Group
import Predictive.Proofs.Store.Grammar
import Predictive.Store.Stages

/-!
# Groups of handles

The alternatives of a stored production come into their groups one after another. Those that begin
with the symbol of a group go behind its members, whichever groups are opened in between
(`foldl_insert_some`). So the groups in the end are those of the alternatives that are stood for
(`flatMap_view_ofAlternatives`).
-/

namespace Predictive

theorem Alternative.ofSequence_eq_orEpsilon {sequence : List Symbol} (h : .epsilon ∉ sequence) :
    ofSequence sequence = orEpsilon sequence := by
  have hfilter : sequence.filter (· != Symbol.epsilon) = sequence := by
    rw [List.filter_eq_self]
    rintro s hs
    rw [bne_iff_ne]
    rintro rfl
    exact h hs
  rw [ofSequence, hfilter]

namespace SymbolStore

variable {store store' : SymbolStore} {a : List Handle}

structure IsAlternative (store : SymbolStore) (a : List Handle) : Prop where
  has : ∀ s ∈ a, store.Has s
  ne_nil : a ≠ []
  normal : a = [.epsilon] ∨ .epsilon ∉ a

theorem IsAlternative.ofSequence_eq (h : store.IsAlternative a) (hstore : store.Intact) :
    Alternative.ofSequence (a.map store.symbol) = a.map store.symbol := by
  rcases h.normal with rfl | hnormal
  · rw [List.map_singleton, hstore.symbol_epsilon]
    rfl
  · refine Alternative.ofSequence_of_notMem ?_ (by simpa using h.ne_nil)
    intro hmem
    obtain ⟨s, hs, heq⟩ := List.mem_map.mp hmem
    exact hnormal ((hstore.symbol_eq_epsilon_iff (h.has s hs)).mp heq ▸ hs)

theorem IsAlternative.ofSequence_tail (h : store.IsAlternative a) (hstore : store.Intact) :
    Alternative.ofSequence (a.tail.map store.symbol) =
      Alternative.orEpsilon (a.tail.map store.symbol) := by
  refine Alternative.ofSequence_eq_orEpsilon fun hmem => ?_
  obtain ⟨s, hs, heq⟩ := List.mem_map.mp hmem
  rcases h.normal with rfl | hnormal
  · cases hs
  · have hmem := List.mem_of_mem_tail hs
    exact hnormal ((hstore.symbol_eq_epsilon_iff (h.has s hmem)).mp heq ▸ hmem)

end SymbolStore

namespace GrammarStore

theorem Intact.isAlternative {g : GrammarStore} (h : g.Intact) {p : StoredProduction}
    (hp : p ∈ g.productions) {a : List Handle} (ha : a ∈ p.alternatives) :
    g.symbols.IsAlternative a :=
  ⟨h.right_has p hp a ha, (h.normal p hp a ha).1, (h.normal p hp a ha).2⟩

end GrammarStore

namespace HeadGroup

variable {store : SymbolStore} {head : Handle} {a : List Handle}

def begins (head : Handle) (a : List Handle) : Bool :=
  headOf a == some head

theorem insert_of_begins (h : begins head a) (members : List (List Handle))
    (groups : List HeadGroup) :
    insert a (⟨some head, members⟩ :: groups) = ⟨some head, members ++ [a]⟩ :: groups := by
  rw [begins, beq_iff_eq] at h
  rw [insert, if_pos (by simp [h])]

theorem insert_of_not_begins (h : ¬begins head a) (members : List (List Handle))
    (groups : List HeadGroup) :
    insert a (⟨some head, members⟩ :: groups) = ⟨some head, members⟩ :: insert a groups := by
  rw [begins, beq_iff_eq] at h
  rw [insert, if_neg]
  rw [Bool.and_eq_true, beq_iff_eq]
  exact fun heq => h heq.2.symm

theorem insert_none (a : List Handle) (members : List (List Handle)) (groups : List HeadGroup) :
    insert a (⟨none, members⟩ :: groups) = ⟨none, members⟩ :: insert a groups := by
  rw [insert, if_neg]
  rw [Bool.and_eq_true, beq_iff_eq]
  rintro ⟨hsome, heq⟩
  rw [← show none = headOf a from heq] at hsome
  cases hsome

/-- The first group gets all alternatives that begin with its symbol, and the others go on. -/
theorem foldl_insert_some (head : Handle) (members alternatives : List (List Handle))
    (groups : List HeadGroup) :
    alternatives.foldl (fun groups a => insert a groups) (⟨some head, members⟩ :: groups) =
      ⟨some head, members ++ alternatives.filter (begins head)⟩ ::
        (alternatives.filter (!begins head ·)).foldl (fun groups a => insert a groups) groups := by
  induction alternatives generalizing members groups with
  | nil => simp
  | cons a rest ih =>
      rw [List.foldl_cons]
      by_cases h : begins head a
      · rw [insert_of_begins h, ih, List.filter_cons_of_pos h,
          List.filter_cons_of_neg (by simpa using h), List.append_assoc, List.singleton_append]
      · rw [insert_of_not_begins h, ih, List.filter_cons_of_neg h,
          List.filter_cons_of_pos (by simpa using h), List.foldl_cons]

theorem foldl_insert_none (members alternatives : List (List Handle)) (groups : List HeadGroup) :
    alternatives.foldl (fun groups a => insert a groups) (⟨none, members⟩ :: groups) =
      ⟨none, members⟩ :: alternatives.foldl (fun groups a => insert a groups) groups := by
  induction alternatives generalizing groups with
  | nil => rfl
  | cons a rest ih => rw [List.foldl_cons, insert_none, ih, List.foldl_cons]

theorem ofAlternatives_cons (a : List Handle) (rest : List (List Handle)) :
    ofAlternatives (a :: rest) =
      match headOf a with
      | none => ⟨none, [a]⟩ :: ofAlternatives rest
      | some head => ⟨some head, a :: rest.filter (begins head)⟩ ::
          ofAlternatives (rest.filter (!begins head ·)) := by
  rw [ofAlternatives, List.foldl_cons, insert]
  cases headOf a with
  | none => exact foldl_insert_none _ _ _
  | some head => exact foldl_insert_some _ _ _ _

/-! ### Members -/

structure Fits (group : HeadGroup) (store : SymbolStore) : Prop where
  head : ∀ head, group.head? = some head → store.Has head ∧ head ≠ .epsilon
  members : ∀ a ∈ group.members, store.IsAlternative a

theorem mem_of_headOf_eq_some (h : headOf a = some head) : head ∈ a ∧ head ≠ .epsilon := by
  obtain ⟨hhead, hne⟩ := Option.filter_eq_some_iff.mp h
  exact ⟨List.mem_of_head? hhead, by simpa using hne⟩

theorem fits_of_mem_insert {groups : List HeadGroup} (h : ∀ group ∈ groups, group.Fits store)
    (ha : store.IsAlternative a) : ∀ group ∈ insert a groups, group.Fits store := by
  have hopened : Fits ⟨headOf a, [a]⟩ store := by
    refine ⟨fun head hhead => ?_, List.forall_mem_singleton.mpr ha⟩
    obtain ⟨hmem, hne⟩ := mem_of_headOf_eq_some hhead
    exact ⟨ha.has head hmem, hne⟩
  induction groups with
  | nil => exact List.forall_mem_singleton.mpr hopened
  | cons group rest ih =>
      obtain ⟨hgroup, hrest⟩ := List.forall_mem_cons.mp h
      rw [insert]
      split
      · refine List.forall_mem_cons.mpr ⟨⟨hgroup.head, ?_⟩, hrest⟩
        exact List.forall_mem_append.mpr ⟨hgroup.members, List.forall_mem_singleton.mpr ha⟩
      · exact List.forall_mem_cons.mpr ⟨hgroup, ih hrest⟩

theorem fits_of_mem_ofAlternatives {alternatives : List (List Handle)}
    (h : ∀ a ∈ alternatives, store.IsAlternative a) :
    ∀ group ∈ ofAlternatives alternatives, group.Fits store := by
  have hfold : ∀ groups : List HeadGroup, (∀ group ∈ groups, group.Fits store) →
      ∀ group ∈ alternatives.foldl (fun groups a => insert a groups) groups,
        group.Fits store := by
    induction alternatives with
    | nil => exact fun _ hgroups => hgroups
    | cons a rest ih =>
        obtain ⟨ha, hrest⟩ := List.forall_mem_cons.mp h
        exact fun groups hgroups => ih hrest _ (fits_of_mem_insert hgroups ha)
  exact hfold [] (List.forall_mem_nil _)

/-! ### What the groups stand for -/

/-- A group with one member is that alternative on its own. -/
def view (symbol : Handle → Symbol) (group : HeadGroup) : List Group :=
  match group.head? with
  | none => group.members.map fun a => .single (a.map symbol)
  | some head =>
    if group.members.length ≤ 1 then group.members.map fun a => .single (a.map symbol)
    else [.shared (symbol head) (group.members.map fun a => a.tail.map symbol)]

theorem leading?_map (hstore : store.Intact) (ha : ∀ s ∈ a, store.Has s) :
    Alternative.leading? (a.map store.symbol) = (headOf a).map store.symbol := by
  cases a with
  | nil => rfl
  | cons s rest =>
      have hs := hstore.symbol_eq_epsilon_iff (ha s List.mem_cons_self)
      by_cases heq : s = .epsilon
      · subst heq
        rw [List.map_cons, hstore.symbol_epsilon]
        rfl
      · rw [List.map_cons, Alternative.leading?_cons (mt hs.mp heq), headOf, List.head?_cons,
          Option.filter_some_pos (by simpa using heq), Option.map_some]

theorem begins_map (hstore : store.Intact) (hhead : store.Has head) (ha : ∀ s ∈ a, store.Has s) :
    (Alternative.leading? (a.map store.symbol) == some (store.symbol head)) = begins head a := by
  rw [leading?_map hstore ha, begins, Bool.eq_iff_iff, beq_iff_eq, beq_iff_eq]
  cases h : headOf a with
  | none => simp
  | some s =>
      have hs := ha s (mem_of_headOf_eq_some h).1
      rw [Option.map_some, Option.some_inj, Option.some_inj]
      exact ⟨hstore.symbol_inj hs hhead, congrArg store.symbol⟩

theorem beginningWith_map (hstore : store.Intact) (hhead : store.Has head)
    {alternatives : List (List Handle)} (h : ∀ a ∈ alternatives, ∀ s ∈ a, store.Has s) :
    Group.beginningWith (store.symbol head) (alternatives.map (·.map store.symbol)) =
      (alternatives.filter (begins head)).map (·.map store.symbol) := by
  rw [Group.beginningWith, List.filter_map]
  exact congrArg _ (List.filter_congr fun a ha => begins_map hstore hhead (h a ha))

theorem notBeginningWith_map (hstore : store.Intact) (hhead : store.Has head)
    {alternatives : List (List Handle)} (h : ∀ a ∈ alternatives, ∀ s ∈ a, store.Has s) :
    Group.notBeginningWith (store.symbol head) (alternatives.map (·.map store.symbol)) =
      (alternatives.filter (!begins head ·)).map (·.map store.symbol) := by
  rw [Group.notBeginningWith, List.filter_map]
  exact congrArg _ (List.filter_congr fun a ha =>
    congrArg (!·) (begins_map hstore hhead (h a ha)))

theorem view_some (symbol : Handle → Symbol) (head : Handle) (a : List Handle)
    (others : List (List Handle)) :
    view symbol ⟨some head, a :: others⟩ =
      [Group.ofMembers (symbol head) (a.map symbol) (others.map (·.map symbol))] := by
  cases others with
  | nil => rfl
  | cons b others =>
      simp [view, Group.ofMembers, Function.comp_def, List.map_tail]

theorem flatMap_view_ofAlternatives (hstore : store.Intact) (alternatives : List (List Handle))
    (h : ∀ a ∈ alternatives, ∀ s ∈ a, store.Has s) :
    (ofAlternatives alternatives).flatMap (view store.symbol) =
      Group.ofAlternatives (alternatives.map (·.map store.symbol)) := by
  match alternatives with
  | [] => rw [List.map_nil, Group.ofAlternatives]; rfl
  | a :: rest =>
      obtain ⟨ha, hrest⟩ := List.forall_mem_cons.mp h
      have hlead := leading?_map hstore ha
      rw [ofAlternatives_cons, List.map_cons, Group.ofAlternatives]
      cases hhead : headOf a with
      | none =>
          rw [hhead, Option.map_none] at hlead
          dsimp only
          rw [hlead, List.flatMap_cons, flatMap_view_ofAlternatives hstore rest hrest]
          rfl
      | some head =>
          rw [hhead, Option.map_some] at hlead
          have hhas := ha head (mem_of_headOf_eq_some hhead).1
          have hnot : ∀ b ∈ rest.filter (!begins head ·), ∀ s ∈ b, store.Has s :=
            fun b hb => hrest b (List.mem_filter.mp hb).1
          rw [hlead]
          dsimp only
          rw [List.flatMap_cons, view_some, List.singleton_append,
            flatMap_view_ofAlternatives hstore _ hnot, beginningWith_map hstore hhas hrest,
            notBeginningWith_map hstore hhas hrest]
termination_by alternatives.length
decreasing_by
  · simp
  · have := List.length_filter_le (!begins head ·) rest
    simp only [List.length_cons]
    omega

end HeadGroup

end Predictive
