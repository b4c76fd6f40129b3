import Predictive.Proofs.Store.Elimination
import Predictive.Proofs.Store.Reading
import Predictive.Store.Edit

/-!
# Runs of operations on a store

`Fits` says that the handles among the arguments of an edit are handles of the store; no more is
asked of them, so a left side may be a terminal or `ε`. Every edit that fits does to an intact store
what it does to the grammar that the store stands for (`Intact.edits`), whichever store it builds on
the way. So from the empty store, or from one that was read, every run of fitting edits leads to an
intact store, and a handle means the same to the end (`edited_intact`).
-/

namespace Predictive

def SymbolStore.Holds (store : SymbolStore) (h : Handle) (name : String) (kind : Kind) : Prop :=
  store.names[h]? = some name ∧ store.kinds[h]? = some kind

theorem SymbolStore.Extends.holds {store store' : SymbolStore} (h : store.Extends store')
    {s : Handle} {name : String} {kind : Kind} (hs : store.Holds s name kind) :
    store'.Holds s name kind :=
  ⟨getElem?_mono h.1 hs.1, getElem?_mono h.2 hs.2⟩

theorem SymbolStore.Intact.exists_holds {store : SymbolStore} (h : store.Intact) {s : Handle}
    (hs : store.Has s) : ∃ name kind, store.Holds s name kind :=
  ⟨_, _, h.getElem?_names hs, h.getElem?_kinds hs⟩

def Edit.Fits (g : GrammarStore) : Edit Handle → Prop
  | .declare left => g.symbols.Has left
  | .add left sequence => g.symbols.Has left ∧ ∀ s ∈ sequence, g.symbols.Has s
  | _ => True

instance (g : GrammarStore) (e : Edit Handle) : Decidable (e.Fits g) :=
  match e with
  | .declare left => inferInstanceAs (Decidable (g.symbols.Has left))
  | .add left sequence => inferInstanceAs (Decidable (g.symbols.Has left ∧
      ∀ s ∈ sequence, g.symbols.Has s))
  | .addTerminal _ | .addNonTerminal _ | .fresh _ | .readSequence _ _ | .withoutProductions
  | .factor | .factorFully | .eliminate => .isTrue trivial

namespace GrammarStore

variable {g : GrammarStore}

def AllFit (g : GrammarStore) : List (Edit Handle) → Prop
  | [] => True
  | e :: rest => e.Fits g ∧ (g.edit e).1.AllFit rest

theorem allFit_append {before after : List (Edit Handle)} :
    g.AllFit (before ++ after) ↔ g.AllFit before ∧ (g.edited before).AllFit after := by
  induction before generalizing g with
  | nil => exact iff_of_eq (true_and _).symm
  | cons e rest ih =>
      rw [List.cons_append, AllFit, AllFit, ih, and_assoc]
      rfl

/-! ### One edit -/

/-- What an edit does to a store is what it does to the grammar, and the slots stay. -/
structure Edits (g : GrammarStore) (r : GrammarStore × List Handle) (result : Grammar) :
    Prop where
  intact : r.1.Intact
  ext : g.symbols.Extends r.1.symbols
  handed : ∀ s ∈ r.2, r.1.symbols.Has s
  view_eq : r.1.view = result

theorem Steps.edits {g' : GrammarStore} (h : Steps g g') (hg : g.Intact) {handles : List Handle}
    (hhandles : ∀ s ∈ handles, g'.symbols.Has s) : Edits g (g', handles) g'.view :=
  ⟨(h.keeps hg).1, (h.keeps hg).2, hhandles, rfl⟩

/-- A store that is built over a copy of the symbols. -/
theorem Steps.edits_deriveEmpty {g' : GrammarStore} (h : Steps g.deriveEmpty g') (hg : g.Intact) :
    Edits g (g', []) g'.view :=
  ⟨(h.keeps hg.deriveEmpty).1, (h.keeps hg.deriveEmpty).2, List.forall_mem_nil _, rfl⟩

theorem Intact.edits_intern (h : g.Intact) (name : String) (kind : Kind) :
    Edits g (g.answered (g.intern name kind))
      ((g.view.intern (.ofKind kind name)).toOption.getD g.view) := by
  have hview := h.view_intern name kind
  cases hintern : g.intern name kind with
  | error error =>
      rw [hintern] at hview
      rw [← hview]
      exact Steps.edits .refl h (List.forall_mem_nil _)
  | ok r =>
      rw [hintern] at hview
      rw [← hview]
      exact Steps.edits (.single (.intern hintern)) h
        (List.forall_mem_singleton.mpr (h.intern hintern).2.2.1)

theorem Intact.edits (h : g.Intact) {e : Edit Handle} (he : e.Fits g) :
    Edits g (g.edit e) (g.view.edit (e.map g.symbols.symbol)) := by
  cases e with
  | addTerminal name => exact h.edits_intern name .terminal
  | addNonTerminal name => exact h.edits_intern name .nonTerminal
  | fresh base =>
      obtain ⟨s, g', hfresh, hview, -⟩ := h.exists_fresh base
      rw [GrammarStore.edit, hfresh, Edit.map, Grammar.edit, ← hview]
      exact Steps.edits (steps_fresh hfresh) h
        (List.forall_mem_singleton.mpr (h.intern hfresh).2.2.1)
  | declare left =>
      rw [Edit.map, Grammar.edit, ← h.view_declare he]
      exact Steps.edits (.single (.declare he)) h (List.forall_mem_nil _)
  | add left sequence =>
      rw [Edit.map, Grammar.edit, ← h.view_add he.1 he.2]
      exact Steps.edits (.single (.add he.1 he.2)) h (List.forall_mem_nil _)
  | readSequence lexing text =>
      obtain ⟨hsteps, hview, -, hhas⟩ := h.readsSequence lexing text
      rw [Edit.map, Grammar.edit, ← hview]
      refine Steps.edits hsteps h ?_
      cases hr : (g.readSequence lexing text).2 with
      | error error => exact List.forall_mem_nil _
      | ok sequence => exact hhas sequence hr
  | withoutProductions => exact Steps.edits_deriveEmpty .refl h
  | factor =>
      obtain ⟨r, hr, hsteps, hview, -⟩ := h.exists_factorPass
      rw [GrammarStore.edit, hr, Edit.map, Grammar.edit, ← hview]
      exact Steps.edits_deriveEmpty hsteps h
  | factorFully =>
      obtain ⟨r, hr, hintact, hext, hview⟩ := h.exists_factorFully
      rw [GrammarStore.edit, hr, Edit.map, Grammar.edit, ← hview]
      exact ⟨hintact, hext, List.forall_mem_nil _, rfl⟩
  | eliminate =>
      rcases h.eliminate with ⟨cycle, hr, hview⟩ | ⟨r, removals, hr, hsteps, hview⟩
      · rw [GrammarStore.edit, hr, Edit.map, Grammar.edit, hview]
        exact Steps.edits .refl h (List.forall_mem_nil _)
      · rw [GrammarStore.edit, hr, Edit.map, Grammar.edit, hview]
        exact Steps.edits_deriveEmpty hsteps h

/-! ### A run -/

theorem Intact.edited {edits : List (Edit Handle)} (h : g.Intact) (hfit : g.AllFit edits) :
    (g.edited edits).Intact ∧ g.symbols.Extends (g.edited edits).symbols := by
  induction edits generalizing g with
  | nil => exact ⟨h, .refl _⟩
  | cons e rest ih =>
      have hedit := h.edits hfit.1
      obtain ⟨hintact, hext⟩ := ih hedit.intact hfit.2
      exact ⟨hintact, hedit.ext.trans hext⟩

theorem Edit.map_eq_of_extends (h : g.Intact) {store : SymbolStore}
    (hext : g.symbols.Extends store) {e : Edit Handle} (he : e.Fits g) :
    e.map store.symbol = e.map g.symbols.symbol := by
  have hsymbol : ∀ s, g.symbols.Has s → store.symbol s = g.symbols.symbol s :=
    fun s hs => h.symbols.symbol_of_extends hext hs
  cases e with
  | declare left => rw [Edit.map, Edit.map, hsymbol left he]
  | add left sequence =>
      rw [Edit.map, Edit.map, hsymbol left he.1,
        List.map_congr_left fun s hs => hsymbol s (he.2 s hs)]
  | addTerminal | addNonTerminal | fresh | readSequence | withoutProductions | factor
  | factorFully | eliminate => rfl

/-- A run on a store is the run on the grammar that it stands for, where every handle is read as the
symbol that it stands for in the end. -/
theorem Intact.view_edited {edits : List (Edit Handle)} (h : g.Intact) (hfit : g.AllFit edits) :
    (g.edited edits).view =
      g.view.edited (edits.map (Edit.map (g.edited edits).symbols.symbol)) := by
  induction edits generalizing g with
  | nil => rfl
  | cons e rest ih =>
      have hedit := h.edits hfit.1
      obtain ⟨-, hext⟩ := h.edited hfit
      have hview := ih hedit.intact hfit.2
      rw [hedit.view_eq, ← Edit.map_eq_of_extends h hext hfit.1] at hview
      exact hview

/-- From the empty store, or from one that was read, every run of fitting edits leads to an intact
store, refused edits or not. Every handle that is handed out on the way has a slot, and no slot
changes its name or its kind. -/
theorem edited_intact {g : GrammarStore}
    (hg : g = empty ∨ ∃ lexing text, g = (load lexing text).1) {edits : List (Edit Handle)}
    (hfit : g.AllFit edits) :
    (g.edited edits).Intact ∧
      (∀ before e after, edits = before ++ e :: after →
        ∀ s ∈ ((g.edited before).edit e).2, ∃ name kind,
          ((g.edited before).edit e).1.symbols.Holds s name kind) ∧
      ∀ before after, edits = before ++ after → ∀ s name kind,
        (g.edited before).symbols.Holds s name kind →
          (g.edited edits).symbols.Holds s name kind := by
  have hintact : g.Intact := by
    rcases hg with rfl | ⟨lexing, text, rfl⟩
    · exact intact_empty
    · exact ((view_load lexing text).1.keeps intact_empty).1
  refine ⟨(hintact.edited hfit).1, ?_, ?_⟩
  · rintro before e after rfl s hs
    obtain ⟨hbefore, he, -⟩ := allFit_append.mp hfit
    have hedit := (hintact.edited hbefore).1.edits he
    exact hedit.intact.symbols.exists_holds (hedit.handed s hs)
  · rintro before after rfl s name kind hs
    obtain ⟨hbefore, hafter⟩ := allFit_append.mp hfit
    rw [edited, List.foldl_append]
    exact ((hintact.edited hbefore).1.edited hafter).2.holds hs

/-- A name is refused for its kind, a terminal gets a production, and a text is refused after its
first symbol. The handles 2 and 3 are those of `S` and `a`. -/
theorem edited_intact_refused :
    let edits : List (Edit Handle) := [.addNonTerminal "S", .addTerminal "a", .addNonTerminal "a",
      .add 2 [2, 3], .add 2 [0, 3], .add 2 [3, 2], .add 3 [1],
      .readSequence .compact "b$c".toList, .eliminate, .factorFully]
    empty.AllFit edits ∧ (empty.edited edits).Intact ∧
      (∀ before e after, edits = before ++ e :: after →
        ∀ s ∈ ((empty.edited before).edit e).2, ∃ name kind,
          ((empty.edited before).edit e).1.symbols.Holds s name kind) ∧
      ∀ before after, edits = before ++ after → ∀ s name kind,
        (empty.edited before).symbols.Holds s name kind →
          (empty.edited edits).symbols.Holds s name kind := by
  intro edits
  have hfit : empty.AllFit edits :=
    ⟨trivial, trivial, trivial, by decide, by decide, by decide, by decide, trivial, trivial,
      trivial, trivial⟩
  exact ⟨hfit, edited_intact (.inl rfl) hfit⟩

end GrammarStore

end Predictive
