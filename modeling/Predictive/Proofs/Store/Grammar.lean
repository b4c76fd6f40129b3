import Mathlib.Logic.Relation
import Predictive.Proofs.Grammar.Build
import Predictive.Proofs.Grammar.WellFormed
import Predictive.Proofs.Store.Symbols
import Predictive.Store.Grammar

/-!
# Intact grammar stores

The productions of a grammar store are found by position and, through an index, by left side.
`Intact` says that both agree, that every handle in use is one of the symbol store, and that the
alternatives have their normal form. Three operations are all that ever changes a store; a `Step` is
one of them with handles of the store as arguments. A step keeps a store intact and takes no slot
back (`Step.keeps`), and so does any number of steps (`Steps.keeps`).

The grammar that a store stands for goes through the same operations (`Intact.view_declare`,
`Intact.view_add`, `Intact.view_intern`).
-/

namespace Predictive

/-- Where no value occurs twice, to change the item at a position is to change the item with its
value. -/
theorem modify_eq_map {α β : Type} [DecidableEq β] {l : List α} {key : α → β} {i : ℕ} {b : β}
    (hnodup : (l.map key).Nodup) (hi : (l[i]?).map key = some b) (f : α → α) :
    l.modify i f = l.map fun a => if key a = b then f a else a := by
  refine List.ext_getElem? fun j => ?_
  rw [List.getElem?_modify, List.getElem?_map]
  cases hj : l[j]? with
  | none => rfl
  | some a =>
      have hiff : i = j ↔ key a = b := by
        have hlt : i < (l.map key).length := by
          obtain ⟨_, hget, -⟩ := Option.map_eq_some_iff.mp hi
          rw [List.length_map]
          exact (List.getElem?_eq_some_iff.mp hget).1
        rw [← List.getElem?_inj hlt hnodup, List.getElem?_map, List.getElem?_map, hi, hj,
          Option.map_some, Option.some_inj, eq_comm]
      by_cases h : i = j
      · simp [h, hiff.mp h]
      · simp [h, mt hiff.mpr h]

namespace StoredProduction

def appendFor (p : StoredProduction) (left : Handle) (a : List Handle) : StoredProduction :=
  if p.left = left then { p with alternatives := p.alternatives ++ [a] } else p

theorem left_appendFor (p : StoredProduction) (left : Handle) (a : List Handle) :
    (p.appendFor left a).left = p.left := by
  unfold appendFor
  split <;> rfl

theorem mem_alternatives_appendFor {p : StoredProduction} {left : Handle} {a b : List Handle}
    (h : b ∈ (p.appendFor left a).alternatives) : b ∈ p.alternatives ∨ b = a := by
  unfold appendFor at h
  split at h
  · exact (List.mem_append.mp h).imp_right List.mem_singleton.mp
  · exact .inl h

end StoredProduction

namespace GrammarStore

/-- The index of a store agrees with its productions, and these are made of its handles. -/
structure Intact (g : GrammarStore) : Prop where
  symbols : g.symbols.Intact
  position_iff : ∀ left i, g.productionIndex.lookup left = some i ↔
    (g.productions[i]?).map StoredProduction.left = some left
  lefts_nodup : (g.productions.map StoredProduction.left).Nodup
  normal : ∀ p ∈ g.productions, ∀ a ∈ p.alternatives, a ≠ [] ∧ (a = [.epsilon] ∨ .epsilon ∉ a)
  left_has : ∀ p ∈ g.productions, g.symbols.Has p.left
  right_has : ∀ p ∈ g.productions, ∀ a ∈ p.alternatives, ∀ s ∈ a, g.symbols.Has s
  start_has : ∀ s, g.start? = some s → g.symbols.Has s
  start_ne : g.productions ≠ [] → g.start? ≠ none

/-- One operation that changes a store, with handles of the store. -/
inductive Step : GrammarStore → GrammarStore → Prop
  | intern {g g' : GrammarStore} {name : String} {kind : Kind} {s : Handle}
      (h : g.intern name kind = .ok (s, g')) : Step g g'
  | declare {g : GrammarStore} {left : Handle} (hleft : g.symbols.Has left) :
      Step g (g.declare left)
  | add {g : GrammarStore} {left : Handle} {sequence : List Handle} (hleft : g.symbols.Has left)
      (hsequence : ∀ s ∈ sequence, g.symbols.Has s) : Step g (g.add left sequence)

abbrev Steps : GrammarStore → GrammarStore → Prop := Relation.ReflTransGen Step

theorem intact_empty : empty.Intact where
  symbols := SymbolStore.intact_empty
  position_iff _ _ := by
    constructor
    · intro h
      cases h
    · intro h
      cases h
  lefts_nodup := .nil
  normal _ h := nomatch h
  left_has _ h := nomatch h
  right_has _ h := nomatch h
  start_has _ h := nomatch h
  start_ne h := absurd rfl h

theorem normalize_ne_nil (sequence : List Handle) : normalize sequence ≠ [] := by
  unfold normalize
  dsimp only
  split
  · exact List.cons_ne_nil _ _
  · next h => simpa using h

theorem normalize_normal (sequence : List Handle) :
    normalize sequence = [.epsilon] ∨ .epsilon ∉ normalize sequence := by
  unfold normalize
  dsimp only
  split
  · exact .inl rfl
  · exact .inr fun hmem => by simpa using (List.mem_filter.mp hmem).2

theorem mem_of_mem_normalize {sequence : List Handle} {s : Handle} (h : s ∈ normalize sequence) :
    s = .epsilon ∨ s ∈ sequence := by
  unfold normalize at h
  dsimp only at h
  split at h
  · exact .inl (List.mem_singleton.mp h)
  · exact .inr (List.mem_filter.mp h).1

theorem symbols_declare (g : GrammarStore) (left : Handle) :
    (g.declare left).symbols = g.symbols := by
  unfold declare
  split <;> rfl

theorem symbols_add (g : GrammarStore) (left : Handle) (sequence : List Handle) :
    (g.add left sequence).symbols = g.symbols := by
  unfold add
  dsimp only
  split <;> exact symbols_declare g left

theorem exists_store_of_intern {g g' : GrammarStore} {name : String} {kind : Kind} {s : Handle}
    (h : g.intern name kind = .ok (s, g')) :
    ∃ store, g.symbols.intern name kind = .ok (s, store) ∧ g' = { g with symbols := store } := by
  unfold intern at h
  cases hintern : g.symbols.intern name kind with
  | error error =>
      rw [hintern] at h
      cases h
  | ok r =>
      rw [hintern] at h
      cases h
      exact ⟨r.2, rfl, rfl⟩

namespace Intact

variable {g g' : GrammarStore} {left : Handle} {sequence : List Handle}

theorem withSymbols (h : g.Intact) {store : SymbolStore} (hstore : store.Intact)
    (hext : g.symbols.Extends store) : Intact { g with symbols := store } where
  symbols := hstore
  position_iff := h.position_iff
  lefts_nodup := h.lefts_nodup
  normal := h.normal
  left_has p hp := hext.has (h.left_has p hp)
  right_has p hp a ha s hs := hext.has (h.right_has p hp a ha s hs)
  start_has s hs := hext.has (h.start_has s hs)
  start_ne := h.start_ne

theorem deriveEmpty (h : g.Intact) : g.deriveEmpty.Intact where
  symbols := h.symbols
  position_iff _ _ := by
    constructor
    · intro h
      cases h
    · intro h
      cases h
  lefts_nodup := .nil
  normal _ h := nomatch h
  left_has _ h := nomatch h
  right_has _ h := nomatch h
  start_has := h.start_has
  start_ne hne := absurd rfl hne

/-! ### Declaring -/

theorem isSome_lookup_iff (h : g.Intact) :
    (g.productionIndex.lookup left).isSome = true ↔
      left ∈ g.productions.map StoredProduction.left := by
  rw [Option.isSome_iff_exists, List.mem_iff_getElem?]
  simp only [h.position_iff, List.getElem?_map]

theorem declare_eq_self (h : g.Intact) (hleft : left ∈ g.productions.map StoredProduction.left) :
    g.declare left = g :=
  if_pos (h.isSome_lookup_iff.mpr hleft)

theorem declare_eq_of_notMem (h : g.Intact)
    (hleft : left ∉ g.productions.map StoredProduction.left) :
    g.declare left = { g with
      productions := g.productions ++ [⟨left, []⟩]
      productionIndex := insertKey left g.productions.length g.productionIndex
      start? := g.start? <|> some left } :=
  if_neg (mt h.isSome_lookup_iff.mp hleft)

theorem declare (h : g.Intact) (hleft : g.symbols.Has left) : (g.declare left).Intact := by
  by_cases hmem : left ∈ g.productions.map StoredProduction.left
  · rwa [h.declare_eq_self hmem]
  rw [h.declare_eq_of_notMem hmem]
  refine ⟨h.symbols, ?_, ?_, ?_, ?_, ?_, ?_, ?_⟩
  · intro other i
    by_cases hother : other = left
    · subst hother
      rw [lookup_insertKey_self, Option.some.injEq, List.getElem?_append]
      split
      · next hlt =>
          -- The left side is new, so it stands at no position before.
          refine iff_of_false (Nat.ne_of_gt hlt) fun hi => hmem ?_
          exact List.mem_of_getElem? ((List.getElem?_map ..).trans hi)
      · next hge =>
          rw [List.getElem?_singleton]
          split
          · next hi => exact iff_of_true (by omega) rfl
          · next hi =>
              refine iff_of_false (by omega) ?_
              intro h
              cases h
    · rw [lookup_insertKey_of_ne hother, h.position_iff, List.getElem?_append]
      split
      · exact Iff.rfl
      · next hge =>
          rw [List.getElem?_eq_none (Nat.not_lt.mp hge), List.getElem?_singleton]
          split <;> simp [Ne.symm hother]
  · rw [List.map_append]
    refine List.nodup_append.mpr ⟨h.lefts_nodup, by simp, ?_⟩
    rintro s hs t ht rfl
    obtain rfl : s = left := by simpa using ht
    exact hmem hs
  · rw [List.forall_mem_append]
    exact ⟨h.normal, List.forall_mem_singleton.mpr fun _ ha => nomatch ha⟩
  · rw [List.forall_mem_append]
    exact ⟨h.left_has, List.forall_mem_singleton.mpr hleft⟩
  · rw [List.forall_mem_append]
    exact ⟨h.right_has, List.forall_mem_singleton.mpr fun _ ha => nomatch ha⟩
  · intro s hs
    cases hstart : g.start? with
    | none =>
        rw [hstart] at hs
        cases hs
        exact hleft
    | some start =>
        rw [hstart] at hs
        cases hs
        exact h.start_has _ hstart
  · intro _
    cases hstart : g.start? with
    | none => exact Option.some_ne_none left
    | some start => exact Option.some_ne_none start

/-! ### Adding -/

/-- Adding changes the production of the left side and no other. -/
theorem add_eq (h : g.Intact) (hleft : g.symbols.Has left) (sequence : List Handle) :
    g.add left sequence = { g.declare left with
      productions := (g.declare left).productions.map
        (·.appendFor left (normalize sequence)) } := by
  have hdeclared := h.declare hleft
  have hmem : left ∈ (g.declare left).productions.map StoredProduction.left := by
    by_cases hmem : left ∈ g.productions.map StoredProduction.left
    · rwa [h.declare_eq_self hmem]
    · simp [h.declare_eq_of_notMem hmem]
  obtain ⟨i, hi⟩ := Option.isSome_iff_exists.mp (hdeclared.isSome_lookup_iff.mpr hmem)
  rw [GrammarStore.add]
  simp only [hi]
  rw [modify_eq_map hdeclared.lefts_nodup ((hdeclared.position_iff left i).mp hi)]
  rfl

theorem add (h : g.Intact) (hleft : g.symbols.Has left)
    (hsequence : ∀ s ∈ sequence, g.symbols.Has s) : (g.add left sequence).Intact := by
  have hdeclared := h.declare hleft
  rw [h.add_eq hleft]
  refine ⟨hdeclared.symbols, ?_, ?_, ?_, ?_, ?_, hdeclared.start_has, ?_⟩
  · intro other i
    simp only [List.getElem?_map, Option.map_map, Function.comp_def,
      StoredProduction.left_appendFor]
    exact hdeclared.position_iff other i
  · rw [List.map_map, Function.comp_def]
    simp only [StoredProduction.left_appendFor]
    exact hdeclared.lefts_nodup
  · refine List.forall_mem_map.mpr fun p hp a ha => ?_
    rcases StoredProduction.mem_alternatives_appendFor ha with ha | rfl
    · exact hdeclared.normal p hp a ha
    · exact ⟨normalize_ne_nil _, normalize_normal _⟩
  · refine List.forall_mem_map.mpr fun p hp => ?_
    rw [StoredProduction.left_appendFor]
    exact hdeclared.left_has p hp
  · refine List.forall_mem_map.mpr fun p hp a ha s hs => ?_
    rcases StoredProduction.mem_alternatives_appendFor ha with ha | rfl
    · exact hdeclared.right_has p hp a ha s hs
    · rcases mem_of_mem_normalize hs with rfl | hs
      · exact hdeclared.symbols.has_epsilon
      · exact (symbols_declare g left).symm ▸ hsequence s hs
  · exact fun hne => hdeclared.start_ne fun hnil => hne (by rw [hnil]; rfl)

/-! ### Interning -/

theorem intern (h : g.Intact) {name : String} {kind : Kind} {s : Handle}
    (hintern : g.intern name kind = .ok (s, g')) :
    g'.Intact ∧ g.symbols.Extends g'.symbols ∧ g'.symbols.Has s ∧
      g'.symbols.symbol s = .ofKind kind name := by
  obtain ⟨store, hstore, rfl⟩ := exists_store_of_intern hintern
  obtain ⟨hintact, hext, hs⟩ := h.symbols.intern hstore
  exact ⟨h.withSymbols hintact hext, hext, hs⟩

end Intact

/-! ### Steps -/

variable {g g' : GrammarStore}

theorem Step.keeps (h : Step g g') (hg : g.Intact) :
    g'.Intact ∧ g.symbols.Extends g'.symbols := by
  cases h with
  | intern hintern =>
      obtain ⟨hintact, hext, -⟩ := hg.intern hintern
      exact ⟨hintact, hext⟩
  | declare hleft => exact ⟨hg.declare hleft, symbols_declare g _ ▸ .refl _⟩
  | add hleft hsequence => exact ⟨hg.add hleft hsequence, symbols_add g _ _ ▸ .refl _⟩

/-- Whatever is done to an intact store, it stays intact and keeps its slots. -/
theorem Steps.keeps (h : Steps g g') (hg : g.Intact) :
    g'.Intact ∧ g.symbols.Extends g'.symbols := by
  induction h with
  | refl => exact ⟨hg, .refl _⟩
  | tail _ hstep ih =>
      obtain ⟨hintact, hext⟩ := hstep.keeps ih.1
      exact ⟨hintact, ih.2.trans hext⟩

theorem symbols_addAll (g : GrammarStore) (left : Handle) (sequences : List (List Handle)) :
    (g.addAll left sequences).symbols = g.symbols := by
  induction sequences generalizing g with
  | nil => rfl
  | cons a rest ih => exact (ih (g.add left a)).trans (symbols_add g left a)

theorem steps_addAll {left : Handle} {sequences : List (List Handle)} (hleft : g.symbols.Has left)
    (hsequences : ∀ a ∈ sequences, ∀ s ∈ a, g.symbols.Has s) :
    Steps g (g.addAll left sequences) := by
  induction sequences generalizing g with
  | nil => exact .refl
  | cons a rest ih =>
      obtain ⟨ha, hrest⟩ := List.forall_mem_cons.mp hsequences
      refine .head (.add hleft ha) (ih ?_ ?_)
      · rwa [symbols_add]
      · rwa [symbols_add]

/-! ### The grammar that a store stands for -/

namespace Intact

variable {left : Handle} {sequence : List Handle}

theorem isSome_view_production?_iff (h : g.Intact) (hleft : g.symbols.Has left) :
    (g.view.production? (g.symbols.symbol left)).isSome = true ↔
      left ∈ g.productions.map StoredProduction.left := by
  rw [Grammar.isSome_production?_iff, view, List.map_map]
  constructor
  · intro hmem
    obtain ⟨p, hp, heq⟩ := List.mem_map.mp hmem
    exact h.symbols.symbol_inj (h.left_has p hp) hleft heq ▸ List.mem_map_of_mem hp
  · intro hmem
    obtain ⟨p, hp, rfl⟩ := List.mem_map.mp hmem
    exact List.mem_map_of_mem (f := Production.left ∘ viewProduction g.symbols) hp

theorem lefts_nodup_view (h : g.Intact) : (g.view.productions.map Production.left).Nodup := by
  rw [view, List.map_map]
  refine List.Nodup.map_on ?_ (List.Nodup.of_map _ h.lefts_nodup)
  intro p hp q hq heq
  exact List.inj_on_of_nodup_map h.lefts_nodup hp hq
    (h.symbols.symbol_inj (h.left_has p hp) (h.left_has q hq) heq)

theorem view_declare (h : g.Intact) (hleft : g.symbols.Has left) :
    (g.declare left).view = g.view.declare (g.symbols.symbol left) := by
  by_cases hmem : left ∈ g.productions.map StoredProduction.left
  · rw [h.declare_eq_self hmem,
      Grammar.declare_eq_self ((h.isSome_view_production?_iff hleft).mpr hmem)]
  · rw [h.declare_eq_of_notMem hmem, Grammar.declare,
      if_neg (mt (h.isSome_view_production?_iff hleft).mp hmem)]
    simp only [view, List.map_append, Grammar.mk.injEq, true_and]
    refine ⟨rfl, ?_⟩
    cases g.start? <;> rfl

theorem map_symbol_normalize (h : g.Intact) (hsequence : ∀ s ∈ sequence, g.symbols.Has s) :
    (normalize sequence).map g.symbols.symbol =
      Alternative.ofSequence (sequence.map g.symbols.symbol) := by
  have hfilter : (sequence.map g.symbols.symbol).filter (· != .epsilon) =
      (sequence.filter (· != .epsilon)).map g.symbols.symbol := by
    rw [List.filter_map]
    refine congrArg _ (List.filter_congr fun s hs => ?_)
    rw [Function.comp_apply, Bool.eq_iff_iff, bne_iff_ne, bne_iff_ne, ne_eq, ne_eq,
      h.symbols.symbol_eq_epsilon_iff (hsequence s hs)]
  rw [Alternative.ofSequence, hfilter, normalize]
  cases sequence.filter (· != .epsilon) with
  | nil => exact congrArg (fun s => [s]) h.symbols.symbol_epsilon
  | cons s rest => rfl

theorem view_appendFor (h : g.Intact) (hleft : g.symbols.Has left) {p : StoredProduction}
    (hp : g.symbols.Has p.left) (a : List Handle) :
    viewProduction g.symbols (p.appendFor left a) =
      (viewProduction g.symbols p).appendFor (g.symbols.symbol left)
        (a.map g.symbols.symbol) := by
  have hiff : (viewProduction g.symbols p).left = g.symbols.symbol left ↔ p.left = left :=
    ⟨h.symbols.symbol_inj hp hleft, congrArg g.symbols.symbol⟩
  unfold StoredProduction.appendFor Production.appendFor
  by_cases heq : p.left = left
  · rw [if_pos heq, if_pos (hiff.mpr heq)]
    simp [viewProduction]
  · rw [if_neg heq, if_neg (mt hiff.mp heq)]

theorem view_add (h : g.Intact) (hleft : g.symbols.Has left)
    (hsequence : ∀ s ∈ sequence, g.symbols.Has s) :
    (g.add left sequence).view =
      g.view.add (g.symbols.symbol left) (sequence.map g.symbols.symbol) := by
  have hsymbols := symbols_declare g left
  have hdeclared := h.declare hleft
  rw [h.add_eq hleft, Grammar.add, ← h.view_declare hleft, ← h.map_symbol_normalize hsequence]
  simp only [view, List.map_map, Grammar.mk.injEq, true_and, and_true]
  refine List.map_congr_left fun p hp => ?_
  rw [← hsymbols]
  exact hdeclared.view_appendFor (hsymbols.symm ▸ hleft) (hdeclared.left_has p hp) _

theorem view_addAll (h : g.Intact) (hleft : g.symbols.Has left) {sequences : List (List Handle)}
    (hsequences : ∀ a ∈ sequences, ∀ s ∈ a, g.symbols.Has s) :
    (g.addAll left sequences).view = g.view.addAll (g.symbols.symbol left)
      (sequences.map (·.map g.symbols.symbol)) := by
  induction sequences generalizing g with
  | nil => rfl
  | cons a rest ih =>
      obtain ⟨ha, hrest⟩ := List.forall_mem_cons.mp hsequences
      have hsymbols := symbols_add g left a
      have hview := ih (h.add hleft ha) (hsymbols ▸ hleft) (hsymbols ▸ hrest)
      rw [hsymbols, h.view_add hleft ha] at hview
      exact hview

theorem view_withSymbols (h : g.Intact) {store : SymbolStore} (hext : g.symbols.Extends store) :
    view { g with symbols := store } = { g.view with symbols := store.view } := by
  have hsymbol : ∀ s, g.symbols.Has s → store.symbol s = g.symbols.symbol s :=
    fun s hs => h.symbols.symbol_of_extends hext hs
  simp only [view, Grammar.mk.injEq, true_and]
  constructor
  · refine List.map_congr_left fun p hp => ?_
    simp only [viewProduction, hsymbol _ (h.left_has p hp), Production.mk.injEq, true_and]
    refine List.map_congr_left fun a ha => List.map_congr_left fun s hs => ?_
    exact hsymbol s (h.right_has p hp a ha s hs)
  · cases hstart : g.start? with
    | none => rfl
    | some start => exact congrArg some (hsymbol start (h.start_has start hstart))

theorem view_intern (h : g.Intact) (name : String) (kind : Kind) :
    (g.intern name kind).map (fun r => r.2.view) = g.view.intern (.ofKind kind name) := by
  have hview := h.symbols.view_intern name kind
  have hsymbols : g.view.symbols = g.symbols.view := rfl
  rw [Grammar.intern, hsymbols, ← hview, GrammarStore.intern]
  cases hintern : g.symbols.intern name kind with
  | error error => rfl
  | ok r => exact congrArg Except.ok (h.view_withSymbols (h.symbols.intern hintern).2.1)

theorem exists_fresh (h : g.Intact) (base : String) :
    ∃ s g', g.fresh base = .ok (s, g') ∧ g'.view = (g.view.fresh base).2 ∧
      g'.symbols.symbol s = (g.view.fresh base).1 := by
  have hintern := h.symbols.intern_freshName base
  have hext := g.symbols.extends_push (g.symbols.freshName base) .nonTerminal
  refine ⟨_, _, by rw [GrammarStore.fresh, GrammarStore.intern, hintern]; rfl, ?_, ?_⟩
  · rw [h.view_withSymbols hext, h.symbols.view_push, h.symbols.freshName_eq]
    rfl
  · exact (h.symbols.intern hintern).2.2.2.trans
      (congrArg Symbol.nonTerminal (h.symbols.freshName_eq base))

end Intact

end GrammarStore

end Predictive
