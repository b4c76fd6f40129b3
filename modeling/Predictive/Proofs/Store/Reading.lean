import Predictive.Proofs.Reading.Line
import Predictive.Proofs.Store.Grammar
import Predictive.Store.Reading

/-!
# What a store reads

A text that is read into a store goes there step by step, and the grammar that the store stands for
in the end is the one that the text spells, with the same faults (`view_load`).

The two sweeps are followed one after the other. While the left sides are interned there are only
non-terminals in the store, so none of them is refused (`exists_intern_left`). In the second sweep
the handles of a right side are used after more symbols have been interned; they still stand for the
same, because slots are only appended.
-/

namespace Predictive

namespace SymbolTable

theorem intern_eq_insert {table : SymbolTable}
    (hall : ∀ t ∈ table.named, t.isNonTerminal = true) {s : Symbol} (hs : Grammar.IsLeftSide s) :
    table.intern s = .ok (table.insert s) := by
  obtain ⟨hkind, hnameable⟩ := hs
  rw [intern_of_kind table (.inr hkind), if_neg (not_or.mpr hnameable.unreserved), insert]
  cases hget : table.get? s.name with
  | none =>
      rw [if_neg]
      intro hmem
      have hnamed := (mem_symbols_of_nameable hnameable).mp hmem
      exact (get?_eq_none_iff table s.name).mp hget (List.mem_map_of_mem hnamed)
  | some held =>
      have hnamed := mem_named_of_get?_eq_some hget
      have hheld : held = s := by
        have hname := name_of_get?_eq_some hget
        have hkind' := hall held hnamed
        cases held <;> cases s <;> simp_all [Symbol.name, Symbol.isNonTerminal]
      rw [if_pos (mem_symbols.mpr (.inr (.inr (hheld ▸ hnamed))))]
      exact if_pos hheld

theorem forall_named_insert {table : SymbolTable}
    (hall : ∀ t ∈ table.named, t.isNonTerminal = true) {s : Symbol}
    (hs : s.isNonTerminal = true) : ∀ t ∈ (table.insert s).named, t.isNonTerminal = true := by
  intro t ht
  rcases mem_of_mem_insert ht with ht | rfl
  · exact hall t ht
  · exact hs

end SymbolTable

namespace Grammar

def enterAll (g : Grammar) (sequence : List Symbol) :
    Grammar × Except SymbolError (List Symbol) :=
  let r := g.symbols.internAll sequence
  ({ g with symbols := r.1 },
    match r.2 with
    | none => .ok sequence
    | some error => .error error)

variable {g g' : Grammar} {s : Symbol}

theorem enterAll_cons_of_error {error : SymbolError} (h : g.intern s = .error error)
    (rest : List Symbol) : g.enterAll (s :: rest) = (g, .error error) := by
  unfold intern at h
  cases hintern : g.symbols.intern s with
  | error error' =>
      rw [hintern] at h
      cases h
      simp [enterAll, SymbolTable.internAll, hintern]
  | ok table =>
      rw [hintern] at h
      cases h

theorem enterAll_cons_of_ok (h : g.intern s = .ok g') (rest : List Symbol) :
    g.enterAll (s :: rest) = ((g'.enterAll rest).1, (g'.enterAll rest).2.map (s :: ·)) := by
  unfold intern at h
  cases hintern : g.symbols.intern s with
  | error error =>
      rw [hintern] at h
      cases h
  | ok table =>
      rw [hintern] at h
      cases h
      simp only [enterAll, SymbolTable.internAll, hintern]
      cases (table.internAll rest).2 <;> rfl

end Grammar

namespace GrammarStore

variable {g : GrammarStore}

/-! ### Left sides -/

def viewLine (store : SymbolStore) (rule : StoredLine) : RuleLine :=
  ⟨rule.line, store.symbol rule.left, rule.rights⟩

def OnlyNonTerminals (g : GrammarStore) : Prop :=
  ∀ s ∈ g.view.symbols.named, s.isNonTerminal = true

theorem Intact.exists_intern_left (h : g.Intact) (hall : g.OnlyNonTerminals) {s : Symbol}
    (hs : Grammar.IsLeftSide s) :
    ∃ left g', g.intern s.name .nonTerminal = .ok (left, g') ∧ g'.symbols.symbol left = s ∧
      g'.view = { g.view with symbols := g.view.symbols.insert s } := by
  have hname : Symbol.ofKind .nonTerminal s.name = s := by
    have hkind := (Symbol.isNonTerminal_iff s).mp hs.1
    rw [← hkind, Symbol.ofKind_kind_name]
  have hview := h.view_intern s.name .nonTerminal
  rw [hname, Grammar.intern, SymbolTable.intern_eq_insert hall hs] at hview
  cases hintern : g.intern s.name .nonTerminal with
  | error error =>
      rw [hintern] at hview
      cases hview
  | ok r =>
      rw [hintern] at hview
      exact ⟨r.1, r.2, rfl, (h.intern hintern).2.2.2.trans hname, Except.ok.inj hview⟩

structure ReadsLine (g : GrammarStore) (r : Except LineFault (Handle × List Char × GrammarStore))
    (reading : Except LineFault (Symbol × List Char)) : Prop where
  reading_eq : r.map (fun r => (r.2.2.symbols.symbol r.1, r.2.1)) = reading
  keeps : ∀ left rights g', r = .ok (left, rights, g') →
    Steps g g' ∧ g'.symbols.Has left ∧ (g'.symbols.symbol left).isNonTerminal = true ∧
      g'.view = { g.view with
        symbols := g.view.symbols.insert (g'.symbols.symbol left) }

theorem ReadsLine.error (g : GrammarStore) (fault : LineFault) :
    ReadsLine g (.error fault) (.error fault) where
  reading_eq := rfl
  keeps _ _ _ h := nomatch h

theorem Intact.readsLine (h : g.Intact) (hall : g.OnlyNonTerminals) {previous : Option Handle}
    (hprevious : ∀ left, previous = some left →
      g.symbols.Has left ∧ (g.symbols.symbol left).isNonTerminal = true) (line : List Char) :
    ReadsLine g (g.readLine previous line)
      (Reading.readLine (previous.map g.symbols.symbol) line) := by
  unfold readLine Reading.readLine
  match Text.splitArrow line with
  | [left, rights] =>
      dsimp only
      cases hleft : Reading.leftSide (Text.trim left) with
      | error fault => exact .error g fault
      | ok s =>
          have hs := Grammar.isLeftSide_of_leftSide hleft
          obtain ⟨handle, g', hintern, rfl, hview⟩ := h.exists_intern_left hall hs
          dsimp only
          rw [hintern]
          refine ⟨rfl, ?_⟩
          rintro _ _ _ ⟨⟩
          exact ⟨.single (.intern hintern), (h.intern hintern).2.2.1, hs.1, hview⟩
  | [text] =>
      dsimp only
      cases Text.trim text with
      | nil => exact .error g _
      | cons c rights =>
          by_cases hc : c = '|'
          · subst hc
            cases previous with
            | none => exact .error g _
            | some left =>
                refine ⟨rfl, ?_⟩
                rintro _ _ _ ⟨⟩
                obtain ⟨hhas, hkind⟩ := hprevious left rfl
                have hinsert : g.view.symbols.insert (g.symbols.symbol left) = g.view.symbols :=
                  if_pos (h.symbols.symbol_mem hhas)
                exact ⟨.refl, hhas, hkind, by rw [hinsert]⟩
          · have hne : ∀ rest, c :: rights ≠ '|' :: rest := fun rest heq => hc (List.cons.inj heq).1
            split
            · next heq => exact absurd heq (hne _)
            · next heq => exact absurd heq (hne _)
            · split
              · next heq _ => exact absurd heq (hne _)
              · next heq _ => exact absurd heq (hne _)
              · exact .error g _
  | [] => exact .error g _
  | _ :: _ :: _ :: _ => exact .error g _

/-- The first sweep, seen through the symbols that the handles stand for. -/
structure Outlines (g : GrammarStore) (outline : Outline)
    (readings : List (Except LineError RuleLine)) : Prop where
  steps : Steps g outline.store
  view_eq : outline.store.view =
    (Reading.rulesOf readings).foldl (fun g rule => g.declareLeft rule.left) g.view
  rules_eq : outline.rules.map (viewLine outline.store.symbols) = Reading.rulesOf readings
  rules_has : ∀ rule ∈ outline.rules, outline.store.symbols.Has rule.left
  faults_eq : outline.faults = Reading.faultsOf readings

theorem Intact.outlines (h : g.Intact) (hall : g.OnlyNonTerminals) {previous : Option Handle}
    (hprevious : ∀ left, previous = some left →
      g.symbols.Has left ∧ (g.symbols.symbol left).isNonTerminal = true)
    (number : ℕ) (lines : List (List Char)) :
    Outlines g (g.readLines previous number lines)
      (Reading.readLines (previous.map g.symbols.symbol) number lines) := by
  induction lines generalizing g previous number with
  | nil => exact ⟨.refl, rfl, rfl, List.forall_mem_nil _, rfl⟩
  | cons line rest ih =>
      rw [readLines, Reading.readLines]
      split
      · exact ih h hall hprevious (number + 1)
      · obtain ⟨hreading, hkeeps⟩ := h.readsLine hall hprevious line
        rw [← hreading]
        cases hline : g.readLine previous line with
        | error fault =>
            have hnone : ∀ left, (none : Option Handle) = some left →
                g.symbols.Has left ∧ (g.symbols.symbol left).isNonTerminal = true := by
              rintro _ ⟨⟩
            obtain ⟨hsteps, hview, hrules, hhas, hfaults⟩ := ih h hall hnone (number + 1)
            exact ⟨hsteps, hview, hrules, hhas, congrArg (_ :: ·) hfaults⟩
        | ok r =>
            obtain ⟨left, rights, g'⟩ := r
            obtain ⟨hsteps, hleft, hkind, hview⟩ := hkeeps left rights g' hline
            obtain ⟨hintact, -⟩ := hsteps.keeps h
            have hdeclared := hintact.declare hleft
            have hsymbols := symbols_declare g' left
            have hviewDeclared : (g'.declare left).view =
                g.view.declareLeft (g'.symbols.symbol left) := by
              rw [hintact.view_declare hleft, hview]
              rfl
            have hall' : (g'.declare left).OnlyNonTerminals := by
              rw [OnlyNonTerminals, hviewDeclared, Grammar.declareLeft, Grammar.symbols_declare]
              exact SymbolTable.forall_named_insert hall hkind
            have hsome : ∀ left', some left = some left' → (g'.declare left).symbols.Has left' ∧
                ((g'.declare left).symbols.symbol left').isNonTerminal = true := by
              rintro _ ⟨⟩
              exact hsymbols ▸ ⟨hleft, hkind⟩
            obtain ⟨hrest, hview', hrules, hhas, hfaults⟩ :=
              ih hdeclared hall' hsome (number + 1)
            obtain ⟨-, hext⟩ := hrest.keeps hdeclared
            have hhead := hdeclared.symbols.symbol_of_extends hext (hsymbols ▸ hleft)
            rw [Option.map_some, hsymbols] at hview' hrules hfaults
            rw [hsymbols] at hhead
            refine ⟨(hsteps.tail (.declare hleft)).trans hrest, ?_, ?_, ?_, hfaults⟩
            · rw [hview', hviewDeclared]
              rfl
            · exact congrArg₂ List.cons (congrArg (RuleLine.mk number · rights) hhead) hrules
            · exact List.forall_mem_cons.mpr ⟨hext.has (hsymbols ▸ hleft), hhas⟩

/-! ### Right sides -/

/-- A sequence of symbols is read into a store as the text spells it, refused half way or not. -/
structure ReadsSequence (g : GrammarStore) (r : GrammarStore × Except SymbolError (List Handle))
    (reading : Grammar × Except SymbolError (List Symbol)) : Prop where
  steps : Steps g r.1
  view_eq : r.1.view = reading.1
  sequence_eq : r.2.map (·.map r.1.symbols.symbol) = reading.2
  has : ∀ sequence, r.2 = .ok sequence → ∀ s ∈ sequence, r.1.symbols.Has s

theorem Intact.readsTokens (h : g.Intact) (tokens : List Token) :
    ReadsSequence g (g.internTokens tokens) (g.view.enterAll (tokens.map Token.symbol)) := by
  induction tokens generalizing g with
  | nil => exact ⟨.refl, rfl, rfl, by rintro _ ⟨⟩; exact List.forall_mem_nil _⟩
  | cons token rest ih =>
      have hview := h.view_intern token.symbol.name token.symbol.kind
      rw [Symbol.ofKind_kind_name] at hview
      rw [internTokens, List.map_cons]
      cases hintern : g.intern token.symbol.name token.symbol.kind with
      | error error =>
          rw [hintern] at hview
          rw [Grammar.enterAll_cons_of_error hview.symm]
          exact ⟨.refl, rfl, rfl, by rintro _ ⟨⟩⟩
      | ok r =>
          obtain ⟨s, g'⟩ := r
          rw [hintern] at hview
          rw [Grammar.enterAll_cons_of_ok hview.symm]
          obtain ⟨hintact, -, hs, hsymbol⟩ := h.intern hintern
          rw [Symbol.ofKind_kind_name] at hsymbol
          obtain ⟨hsteps, hview', hsequence, hhas⟩ := ih hintact
          obtain ⟨-, hext⟩ := hsteps.keeps hintact
          have hsymbol' := (hintact.symbols.symbol_of_extends hext hs).trans hsymbol
          refine ⟨.head (.intern hintern) hsteps, hview', ?_, ?_⟩
          · dsimp only
            rw [← hsequence, ← hsymbol']
            cases (g'.internTokens rest).2 <;> rfl
          · dsimp only
            cases hrest : (g'.internTokens rest).2 with
            | error error => rintro _ ⟨⟩
            | ok handles =>
                rintro _ ⟨⟩
                exact List.forall_mem_cons.mpr ⟨hext.has hs, hhas handles hrest⟩

theorem Intact.readsSequence (h : g.Intact) (lexing : Lexing) (text : List Char) :
    ReadsSequence g (g.readSequence lexing text) (g.view.readSequence lexing text) :=
  h.readsTokens (Token.ofText lexing text)

structure AddsSegments (g : GrammarStore) (r : GrammarStore × List LineError)
    (reading : Grammar × List LineError) : Prop where
  steps : Steps g r.1
  reading_eq : (r.1.view, r.2) = reading

theorem Intact.addsRights (h : g.Intact) (lexing : Lexing) (line : ℕ) {left : Handle}
    (hleft : g.symbols.Has left) (texts : List (List Char)) :
    AddsSegments g (addRights lexing line left g texts)
      (Grammar.addSegments lexing g.view
        (texts.map fun text => ⟨line, g.symbols.symbol left, text⟩)) := by
  induction texts generalizing g with
  | nil => exact ⟨.refl, rfl⟩
  | cons text rest ih =>
      have hreads := h.readsSequence lexing text
      rw [addRights, List.map_cons, Grammar.addSegments.eq_def]
      dsimp only
      generalize g.readSequence lexing text = r at hreads ⊢
      generalize g.view.readSequence lexing text = reading at hreads ⊢
      obtain ⟨g', result⟩ := r
      obtain ⟨view', result'⟩ := reading
      obtain ⟨hsteps, hview, hsequence, hhas⟩ := hreads
      obtain ⟨hintact, hext⟩ := hsteps.keeps h
      have hleft' := hext.has hleft
      have hsymbol := h.symbols.symbol_of_extends hext hleft
      dsimp only at hsteps hview hsequence hhas hleft' hsymbol
      subst hview hsequence
      cases result with
      | error error =>
          obtain ⟨hrest, hview⟩ := ih hintact hleft'
          rw [hsymbol] at hview
          refine ⟨hsteps.trans hrest, ?_⟩
          dsimp only [Except.map]
          rw [← hview]
      | ok sequence =>
          have hadded := hintact.add hleft' (hhas sequence rfl)
          have hsymbols := symbols_add g' left sequence
          obtain ⟨hrest, hview⟩ := ih hadded (hsymbols ▸ hleft')
          rw [hsymbols, hsymbol, hintact.view_add hleft' (hhas sequence rfl), hsymbol] at hview
          exact ⟨(hsteps.tail (.add hleft' (hhas sequence rfl))).trans hrest, hview⟩

theorem addSegments_append (lexing : Lexing) (g : Grammar) (xs ys : List Reading.Segment) :
    Grammar.addSegments lexing g (xs ++ ys) =
      ((Grammar.addSegments lexing (Grammar.addSegments lexing g xs).1 ys).1,
        (Grammar.addSegments lexing g xs).2 ++
          (Grammar.addSegments lexing (Grammar.addSegments lexing g xs).1 ys).2) := by
  induction xs generalizing g with
  | nil => rfl
  | cons x xs ih =>
      rw [List.cons_append, Grammar.addSegments.eq_def lexing g (x :: (xs ++ ys)),
        Grammar.addSegments.eq_def lexing g (x :: xs)]
      dsimp only
      obtain ⟨g', result⟩ := g.readSequence lexing x.text
      cases result with
      | error error => simp [ih]
      | ok sequence => exact ih _

theorem Intact.addsLines (h : g.Intact) (lexing : Lexing) {rules : List StoredLine}
    (hrules : ∀ rule ∈ rules, g.symbols.Has rule.left) :
    AddsSegments g (addLines lexing g rules)
      (Grammar.addSegments lexing g.view
        ((rules.map (viewLine g.symbols)).flatMap Reading.segments)) := by
  induction rules generalizing g with
  | nil => exact ⟨.refl, rfl⟩
  | cons rule rest ih =>
      obtain ⟨hleft, hrest⟩ := List.forall_mem_cons.mp hrules
      obtain ⟨hsteps, hreading⟩ :=
        h.addsRights lexing rule.line hleft (rule.rights.splitOn '|')
      obtain ⟨hintact, hext⟩ := hsteps.keeps h
      obtain ⟨hsteps', hreading'⟩ := ih hintact fun r hr => hext.has (hrest r hr)
      have hview : rest.map (viewLine (addRights lexing rule.line rule.left g
          (rule.rights.splitOn '|')).1.symbols) = rest.map (viewLine g.symbols) :=
        List.map_congr_left fun r hr => congrArg (RuleLine.mk r.line · r.rights)
          (h.symbols.symbol_of_extends hext (hrest r hr))
      refine ⟨hsteps.trans hsteps', ?_⟩
      rw [List.map_cons, List.flatMap_cons, addSegments_append]
      have hsegments : Reading.segments (viewLine g.symbols rule) =
          (rule.rights.splitOn '|').map fun text =>
            ⟨rule.line, g.symbols.symbol rule.left, text⟩ := rfl
      rw [hsegments, ← hreading, ← hview, ← hreading']
      rfl

/-- A text leaves a store that stands for the grammar that it spells, with the same faults. -/
theorem view_load (lexing : Lexing) (text : String) :
    Steps empty (load lexing text).1 ∧
      ((load lexing text).1.view, (load lexing text).2) = Grammar.load lexing text := by
  have hall : empty.OnlyNonTerminals := fun _ h => nomatch h
  have houtlines : Outlines empty (empty.readLines none 1 (Text.lines text.toList))
      (Reading.readLines none 1 (Text.lines text.toList)) :=
    intact_empty.outlines hall (by rintro _ ⟨⟩) 1 (Text.lines text.toList)
  obtain ⟨hsteps, hview, hrules, hhas, hfaults⟩ := houtlines
  obtain ⟨hintact, -⟩ := hsteps.keeps intact_empty
  obtain ⟨hsteps', hreading⟩ := hintact.addsLines lexing hhas
  have hempty : empty.view = Grammar.empty := rfl
  rw [hrules, hview, hempty] at hreading
  refine ⟨hsteps.trans hsteps', ?_⟩
  rw [load, Grammar.load]
  dsimp only
  rw [hfaults, ← hreading]

end GrammarStore

end Predictive
