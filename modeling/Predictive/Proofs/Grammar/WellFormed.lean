import Mathlib.Data.List.Nodup
import Predictive.Grammar.Reading
import Predictive.Proofs.Symbol.Table

/-!
# Well-formed grammars

What a grammar that was read from a text can be relied on for: no left side has two productions,
left sides and start symbol are non-terminals of the table, and alternatives consist of `ε` and
symbols of the table, in the form that `Alternative.ofSequence` gives them. In particular the end
marker is in no alternative.

Every grammar that `load` gives is well-formed, faults in the text or not (`wellFormed_load`).
-/

namespace Predictive

namespace Alternative

theorem ofSequence_orEpsilon {sequence : List Symbol} (h : .epsilon ∉ sequence) :
    ofSequence (orEpsilon sequence) = orEpsilon sequence := by
  cases sequence with
  | nil => rfl
  | cons s rest => exact ofSequence_of_notMem h (List.cons_ne_nil s rest)

theorem ofSequence_ofSequence (sequence : List Symbol) :
    ofSequence (ofSequence sequence) = ofSequence sequence :=
  ofSequence_orEpsilon (by simp)

theorem mem_of_mem_orEpsilon {sequence : List Symbol} {s : Symbol} (h : s ∈ orEpsilon sequence) :
    s = .epsilon ∨ s ∈ sequence := by
  cases sequence with
  | nil => exact .inl (List.mem_singleton.mp h)
  | cons t rest => exact .inr h

theorem mem_of_mem_ofSequence {sequence : List Symbol} {s : Symbol} (h : s ∈ ofSequence sequence) :
    s = .epsilon ∨ s ∈ sequence :=
  (mem_of_mem_orEpsilon h).imp_right fun h => (List.mem_filter.mp h).1

theorem epsilon_notMem_of_ofSequence_eq {s : Symbol} {rest : List Symbol} (hs : s ≠ .epsilon)
    (h : ofSequence (s :: rest) = s :: rest) : .epsilon ∉ rest := by
  rw [ofSequence, List.filter_cons_of_pos (by simpa using hs), orEpsilon, List.cons.injEq,
    List.filter_eq_self] at h
  intro hmem
  simpa using h.2 _ hmem

end Alternative

theorem Token.symbol_ne_endMarker (token : Token) : token.symbol ≠ .endMarker := by
  cases token <;> simp [Token.symbol]

namespace Grammar

structure WellFormed (g : Grammar) : Prop where
  symbols : g.symbols.WellFormed
  lefts_nodup : (g.productions.map Production.left).Nodup
  left_mem : ∀ p ∈ g.productions, p.left ∈ g.nonTerminals
  mem_named : ∀ r ∈ g.rules, ∀ s ∈ r.2, s = .epsilon ∨ s ∈ g.symbols.named
  normal : ∀ r ∈ g.rules, Alternative.ofSequence r.2 = r.2
  start_mem : ∀ s, g.start? = some s → s ∈ g.nonTerminals

theorem mem_nonTerminals {g : Grammar} {s : Symbol} :
    s ∈ g.nonTerminals ↔ s ∈ g.symbols.named ∧ s.isNonTerminal = true :=
  SymbolTable.mem_nonTerminals

theorem exists_eq_of_mem_nonTerminals {g : Grammar} {s : Symbol} (h : s ∈ g.nonTerminals) :
    ∃ name, s = .nonTerminal name := by
  have hkind := (mem_nonTerminals.mp h).2
  cases s with
  | nonTerminal name => exact ⟨name, rfl⟩
  | epsilon => cases hkind
  | endMarker => cases hkind
  | terminal name => cases hkind

theorem exists_start_of_validate {g : Grammar} (h : g.validate = .ok ()) :
    ∃ start, g.start? = some start := by
  cases hstart : g.start? with
  | none =>
      rw [validate, hstart] at h
      cases h
  | some start => exact ⟨start, rfl⟩

theorem mem_rules_of_production? {g : Grammar} {left : Symbol} {p : Production}
    (hp : g.production? left = some p) {a : Alternative} (ha : a ∈ p.alternatives) :
    (left, a) ∈ g.rules :=
  (mem_rules_iff g left a).mpr
    ⟨p, List.mem_of_find?_eq_some hp, left_of_production?_eq_some hp, ha⟩

theorem wellFormed_empty : empty.WellFormed where
  symbols := SymbolTable.wellFormed_empty
  lefts_nodup := .nil
  left_mem _ h := nomatch h
  mem_named _ h := nomatch h
  normal _ h := nomatch h
  start_mem _ h := nomatch h

theorem production?_left_of_nodup {g : Grammar} (h : (g.productions.map Production.left).Nodup)
    {p : Production} (hp : p ∈ g.productions) : g.production? p.left = some p := by
  cases hfind : g.production? p.left with
  | none =>
      have := List.find?_eq_none.mp hfind p hp
      simp at this
  | some q =>
      have hq := List.mem_of_find?_eq_some hfind
      rw [List.inj_on_of_nodup_map h hq hp (left_of_production?_eq_some hfind)]

namespace WellFormed

variable {g : Grammar}

theorem left_mem_of_rule (h : g.WellFormed) {r : Symbol × Alternative} (hr : r ∈ g.rules) :
    r.1 ∈ g.nonTerminals := by
  obtain ⟨p, hp, hleft, -⟩ := (mem_rules_iff g r.1 r.2).mp hr
  exact hleft ▸ h.left_mem p hp

theorem exists_left_eq (h : g.WellFormed) {r : Symbol × Alternative} (hr : r ∈ g.rules) :
    ∃ name, r.1 = .nonTerminal name :=
  exists_eq_of_mem_nonTerminals (h.left_mem_of_rule hr)

/-- A left side has no alternatives but those of its one production. -/
theorem mem_alternatives_of_rule (h : g.WellFormed) {p : Production} (hp : p ∈ g.productions)
    {a : Alternative} (hr : (p.left, a) ∈ g.rules) : a ∈ p.alternatives := by
  obtain ⟨q, hq, hleft, ha⟩ := (mem_rules_iff g p.left a).mp hr
  have heq : q = p := List.inj_on_of_nodup_map h.lefts_nodup hq hp hleft
  exact heq ▸ ha

theorem production?_left (h : g.WellFormed) {p : Production} (hp : p ∈ g.productions) :
    g.production? p.left = some p :=
  production?_left_of_nodup h.lefts_nodup hp

theorem withSymbols (h : g.WellFormed) {table : SymbolTable} (htable : table.WellFormed)
    (hext : g.symbols.named <+: table.named) : WellFormed { g with symbols := table } where
  symbols := htable
  lefts_nodup := h.lefts_nodup
  left_mem p hp := by
    have hmem := mem_nonTerminals.mp (h.left_mem p hp)
    exact mem_nonTerminals.mpr ⟨hext.subset hmem.1, hmem.2⟩
  mem_named r hr s hs := (h.mem_named r hr s hs).imp_right fun hs => hext.subset hs
  normal := h.normal
  start_mem s hs := by
    have hmem := mem_nonTerminals.mp (h.start_mem s hs)
    exact mem_nonTerminals.mpr ⟨hext.subset hmem.1, hmem.2⟩

theorem declare (h : g.WellFormed) {left : Symbol} (hleft : left ∈ g.nonTerminals) :
    (g.declare left).WellFormed := by
  unfold Grammar.declare
  split
  · exact h
  · next hnone =>
      have hnew : ∀ p ∈ g.productions, p.left ≠ left := by
        intro p hp heq
        exact hnone (List.find?_isSome.mpr ⟨p, hp, by simp [heq]⟩)
      have hrules : ∀ r, r ∈ rules { g with
          productions := g.productions ++ [⟨left, []⟩], start? := g.start? <|> some left } →
          r ∈ g.rules := by
        simp [rules]
      refine ⟨h.symbols, ?_, ?_, fun r hr => h.mem_named r (hrules r hr),
        fun r hr => h.normal r (hrules r hr), ?_⟩
      · rw [List.map_append]
        refine List.nodup_append.mpr ⟨h.lefts_nodup, by simp, ?_⟩
        intro s hs t ht
        obtain ⟨p, hp, rfl⟩ := List.mem_map.mp hs
        obtain rfl : t = left := by simpa using ht
        exact hnew p hp
      · intro p hp
        rcases List.mem_append.mp hp with hp | hp
        · exact h.left_mem p hp
        · obtain rfl := List.mem_singleton.mp hp
          exact hleft
      · intro s hs
        cases hstart : g.start? with
        | none =>
            rw [hstart] at hs
            cases hs
            exact hleft
        | some start =>
            rw [hstart] at hs
            cases hs
            exact h.start_mem _ hstart

end WellFormed

theorem mem_rules_add {g : Grammar} {left : Symbol} {sequence : List Symbol}
    {r : Symbol × Alternative} (hr : r ∈ (g.add left sequence).rules) :
    r ∈ (g.declare left).rules ∨ r = (left, Alternative.ofSequence sequence) := by
  obtain ⟨p, hp, hleft, ha⟩ := (mem_rules_iff _ r.1 r.2).mp hr
  obtain ⟨q, hq, rfl⟩ := List.mem_map.mp hp
  rw [Production.left_appendFor] at hleft
  unfold Production.appendFor at ha
  split at ha
  · next heq =>
      rcases List.mem_append.mp ha with ha | ha
      · exact .inl ((mem_rules_iff _ r.1 r.2).mpr ⟨q, hq, hleft, ha⟩)
      · rw [List.mem_singleton] at ha
        exact .inr (Prod.ext (hleft ▸ heq) ha)
  · exact .inl ((mem_rules_iff _ r.1 r.2).mpr ⟨q, hq, hleft, ha⟩)

theorem WellFormed.add {g : Grammar} (h : g.WellFormed) {left : Symbol}
    (hleft : left ∈ g.nonTerminals) {sequence : List Symbol}
    (hsequence : ∀ s ∈ sequence, s = .epsilon ∨ s ∈ g.symbols.named) :
    (g.add left sequence).WellFormed := by
  have hd := h.declare hleft
  have hsymbols := symbols_declare g left
  refine ⟨hd.symbols, ?_, ?_, ?_, ?_, hd.start_mem⟩
  · rw [Grammar.add, List.map_map, Function.comp_def]
    simp only [Production.left_appendFor]
    exact hd.lefts_nodup
  · intro p hp
    obtain ⟨q, hq, rfl⟩ := List.mem_map.mp hp
    rw [Production.left_appendFor]
    exact hd.left_mem q hq
  · intro r hr s hs
    rcases mem_rules_add hr with hr | rfl
    · exact hd.mem_named r hr s hs
    · rw [symbols_add]
      rcases Alternative.mem_of_mem_ofSequence hs with hs | hs
      · exact .inl hs
      · exact hsequence s hs
  · intro r hr
    rcases mem_rules_add hr with hr | rfl
    · exact hd.normal r hr
    · exact Alternative.ofSequence_ofSequence sequence

/-! ### Reading -/

theorem isNonTerminal_of_isNonTerminalName {cs : List Char} (h : isNonTerminalName cs = true) :
    (Symbol.nonTerminal (String.ofList cs)).Nameable where
  kind := .inr rfl
  unreserved := by
    cases cs with
    | nil => cases h
    | cons c cs =>
        have hupper : c.isUpper = true := by
          rw [isNonTerminalName, Bool.and_eq_true] at h
          exact h.1
        constructor
        · intro heq
          have hlist := congrArg String.toList heq
          simp only [Symbol.name, String.toList_ofList] at hlist
          rw [show Symbol.epsilonName.toList = ['ε'] by decide, List.cons.injEq] at hlist
          rw [hlist.1] at hupper
          exact absurd hupper (by decide)
        · intro heq
          have hlist := congrArg String.toList heq
          simp only [Symbol.name, String.toList_ofList] at hlist
          rw [show Symbol.endMarkerName.toList = ['$'] by decide, List.cons.injEq] at hlist
          rw [hlist.1] at hupper
          exact absurd hupper (by decide)

def IsLeftSide (s : Symbol) : Prop :=
  s.isNonTerminal = true ∧ s.Nameable

theorem isLeftSide_of_leftSide {cs : List Char} {s : Symbol} (h : Reading.leftSide cs = .ok s) :
    IsLeftSide s := by
  unfold Reading.leftSide at h
  split at h
  · cases h
  · split at h
    · next hname =>
        cases h
        exact ⟨rfl, isNonTerminal_of_isNonTerminalName hname⟩
    · cases h

theorem isLeftSide_of_readLine {previous : Option Symbol} {line : List Char} {s : Symbol}
    {rights : List Char} (hprevious : ∀ p, previous = some p → IsLeftSide p)
    (h : Reading.readLine previous line = .ok (s, rights)) : IsLeftSide s := by
  unfold Reading.readLine at h
  split at h
  · next left rights hsplit =>
      cases hleft : Reading.leftSide (Text.trim left) with
      | error fault =>
          rw [hleft] at h
          cases h
      | ok t =>
          rw [hleft] at h
          cases h
          exact isLeftSide_of_leftSide hleft
  · split at h
    · cases h
      exact hprevious _ rfl
    · cases h
    · cases h
  · cases h

theorem isLeftSide_none : ∀ s, (none : Option Symbol) = some s → IsLeftSide s := by
  intro s hs
  cases hs

theorem isLeftSide_of_mem_readLines {previous : Option Symbol} {number : Nat}
    {lines : List (List Char)} (hprevious : ∀ p, previous = some p → IsLeftSide p)
    {rule : RuleLine} (h : rule ∈ Reading.rulesOf (Reading.readLines previous number lines)) :
    IsLeftSide rule.left := by
  induction lines generalizing previous number with
  | nil => cases h
  | cons line rest ih =>
      rw [Reading.readLines] at h
      split at h
      · exact ih hprevious h
      · split at h
        · next left rights hline =>
            have hleft := isLeftSide_of_readLine hprevious hline
            rcases List.mem_cons.mp h with rfl | h
            · exact hleft
            · refine ih (fun p hp => ?_) h
              cases hp
              exact hleft
        · exact ih isLeftSide_none h

/-- While left sides are declared, the table holds nothing but non-terminals; so no name can be in
use for the other kind. -/
theorem WellFormed.declareLeft {g : Grammar} (h : g.WellFormed)
    (hnamed : ∀ s ∈ g.symbols.named, s.isNonTerminal = true) {left : Symbol}
    (hleft : IsLeftSide left) :
    (g.declareLeft left).WellFormed ∧
      (∀ s ∈ (g.declareLeft left).symbols.named, s.isNonTerminal = true) ∧
      g.symbols.named <+: (g.declareLeft left).symbols.named ∧
      left ∈ (g.declareLeft left).nonTerminals := by
  have hext := g.symbols.prefix_insert left
  have htable : (g.symbols.insert left).WellFormed := by
    refine h.symbols.insert hleft.2 fun s hs => ?_
    rw [(Symbol.isNonTerminal_iff s).mp (hnamed s hs), (Symbol.isNonTerminal_iff left).mp hleft.1]
  have hnamed' : ∀ s ∈ (g.symbols.insert left).named, s.isNonTerminal = true := by
    intro s hs
    rcases SymbolTable.mem_of_mem_insert hs with hs | rfl
    · exact hnamed s hs
    · exact hleft.1
  have hnonTerminal : left ∈ (g.symbols.insert left).nonTerminals :=
    SymbolTable.mem_nonTerminals.mpr ⟨SymbolTable.mem_insert_self hleft.2, hleft.1⟩
  refine ⟨(h.withSymbols htable hext).declare hnonTerminal, ?_⟩
  unfold Grammar.declareLeft nonTerminals
  rw [symbols_declare]
  exact ⟨hnamed', hext, hnonTerminal⟩

theorem wellFormed_declareAll (rules : List RuleLine) {g : Grammar} (h : g.WellFormed)
    (hnamed : ∀ s ∈ g.symbols.named, s.isNonTerminal = true)
    (hrules : ∀ rule ∈ rules, IsLeftSide rule.left) :
    let declared := rules.foldl (fun g rule => g.declareLeft rule.left) g
    declared.WellFormed ∧ g.nonTerminals ⊆ declared.nonTerminals ∧
      ∀ rule ∈ rules, rule.left ∈ declared.nonTerminals := by
  induction rules generalizing g with
  | nil => exact ⟨h, List.Subset.refl _, fun rule hrule => nomatch hrule⟩
  | cons rule rest ih =>
      obtain ⟨hg, hnamed', hext, hleft⟩ :=
        h.declareLeft hnamed (hrules rule List.mem_cons_self)
      obtain ⟨hrest, hsubset, hlefts⟩ :=
        ih hg hnamed' fun r hr => hrules r (List.mem_cons_of_mem _ hr)
      refine ⟨hrest, fun s hs => hsubset ?_, fun r hr => ?_⟩
      · rw [mem_nonTerminals] at hs ⊢
        exact ⟨hext.subset hs.1, hs.2⟩
      · rcases List.mem_cons.mp hr with rfl | hr
        · exact hsubset hleft
        · exact hlefts r hr

theorem WellFormed.readSequence {g : Grammar} (h : g.WellFormed) (lexing : Lexing)
    (text : List Char) :
    (g.readSequence lexing text).1.WellFormed ∧
      g.nonTerminals ⊆ (g.readSequence lexing text).1.nonTerminals ∧
      ∀ sequence, (g.readSequence lexing text).2 = .ok sequence →
        ∀ s ∈ sequence, s = .epsilon ∨ s ∈ (g.readSequence lexing text).1.symbols.named := by
  have hext := SymbolTable.prefix_internAll g.symbols
    ((Token.ofText lexing text).map Token.symbol)
  refine ⟨h.withSymbols (h.symbols.internAll _) hext, fun s hs => ?_, ?_⟩
  · rw [mem_nonTerminals] at hs ⊢
    exact ⟨hext.subset hs.1, hs.2⟩
  · intro sequence hsequence s hs
    unfold Grammar.readSequence at hsequence ⊢
    dsimp only at hsequence ⊢
    split at hsequence
    · next hnone =>
        cases hsequence
        rcases SymbolTable.mem_symbols.mp (SymbolTable.mem_symbols_of_internAll hnone s hs) with
          hs' | rfl | hs'
        · exact .inl hs'
        · obtain ⟨token, -, htoken⟩ := List.mem_map.mp hs
          exact absurd htoken (token.symbol_ne_endMarker)
        · exact .inr hs'
    · cases hsequence

theorem WellFormed.addSegments (lexing : Lexing) (segments : List Reading.Segment) {g : Grammar}
    (h : g.WellFormed) (hsegments : ∀ segment ∈ segments, segment.left ∈ g.nonTerminals) :
    (Grammar.addSegments lexing g segments).1.WellFormed := by
  induction segments generalizing g with
  | nil => exact h
  | cons segment rest ih =>
      obtain ⟨hg, hsubset, hsequence⟩ := h.readSequence lexing segment.text
      have hleft := hsubset (hsegments segment List.mem_cons_self)
      have hlefts : ∀ s ∈ rest, s.left ∈ (g.readSequence lexing segment.text).1.nonTerminals :=
        fun s hs => hsubset (hsegments s (List.mem_cons_of_mem _ hs))
      rw [Grammar.addSegments]
      split
      · next g' sequence hread =>
          rw [hread] at hg hsequence hleft hlefts
          refine ih (hg.add hleft (hsequence sequence rfl)) fun s hs => ?_
          rw [nonTerminals, symbols_add]
          exact hlefts s hs
      · next g' error hread =>
          rw [hread] at hg hlefts
          exact ih hg hlefts

theorem wellFormed_load (lexing : Lexing) (text : String) : (load lexing text).1.WellFormed := by
  have hrules : ∀ rule ∈ Reading.rulesOf (Reading.readLines none 1 (Text.lines text.toList)),
      IsLeftSide rule.left :=
    fun _ hrule => isLeftSide_of_mem_readLines isLeftSide_none hrule
  obtain ⟨hdeclared, -, hlefts⟩ := wellFormed_declareAll _ wellFormed_empty
    (fun s hs => nomatch hs) hrules
  refine hdeclared.addSegments lexing _ fun segment hsegment => ?_
  obtain ⟨rule, hrule, heq⟩ := Reading.exists_rule_of_mem_segments hsegment
  exact heq ▸ hlefts rule hrule

end Grammar

end Predictive
