import Predictive.Proofs.Parser.Basic

/-!
# The parser accepts what its grammar generates

A run that empties stack and input, read backwards, is a derivation of the input from the stack; so
a parser accepts only words of the start symbol, whatever its table contains beyond rules.

For the converse a derivation is followed from symbol to symbol (`runs_of_yields`). The statement
has a stack of any symbols and an input of any symbols behind the form and its word, so that it
can be used for the body of a rule in the middle of a run. What makes a cell offer the alternative
that the derivation uses is that the form fits in front of the next symbol (`Fits`).
-/

namespace Predictive

theorem bind_eq_ok_iff {ε α β : Type} {x : Except ε α} {f : α → Except ε β} {b : β} :
    x >>= f = .ok b ↔ ∃ a, x = .ok a ∧ f a = .ok b := by
  cases x with
  | error e =>
      constructor
      · intro h
        cases h
      · rintro ⟨a, h, -⟩
        cases h
  | ok a =>
      constructor
      · intro h
        exact ⟨a, rfl, h⟩
      · rintro ⟨_, h, hf⟩
        cases h
        exact hf

/-- To know that there is a result it is enough to compute something of it. -/
theorem exists_eq_ok_of_map_toOption {ε α β : Type} {x : Except ε α} {f : α → β} {b : β}
    (h : x.toOption.map f = some b) : ∃ a, x = .ok a ∧ f a = b := by
  cases x with
  | error e => cases h
  | ok a => exact ⟨a, rfl, Option.some.inj h⟩

namespace Grammar

structure Saturated (g : Grammar) (first follow : SymbolSets) : Prop where
  wellFormed : g.WellFormed
  firstSound : g.FirstSound first
  firstClosed : g.FirstClosed first
  followClosed : g.FollowClosed first follow
  lookaheads : g.Lookaheads follow
  start : ∀ s, g.start? = some s → follow.contains s .endMarker = true

theorem WellFormed.saturated {g : Grammar} (hg : g.WellFormed) {first follow : Stable SymbolSets}
    (hfirst : g.firstSets = .ok first) (hfollow : g.followSets first.value = .ok follow) :
    g.Saturated first.value follow.value := by
  obtain ⟨_, -, hfirst⟩ := bind_eq_ok_iff.mp hfirst
  obtain ⟨_, -, hfollow⟩ := bind_eq_ok_iff.mp hfollow
  cases hfirst
  cases hstart : g.start? with
  | none =>
      rw [hstart] at hfollow
      cases hfollow
  | some start =>
      rw [hstart] at hfollow
      cases hfollow
      have hsound := (g.firstSound_ofKeys g.nonTerminals).firstFrom hg
      exact ⟨hg, hsound, g.firstClosed_firstFrom _, g.followClosed_followFrom _ _,
        lookaheads_followFrom hg hsound start, endMarker_mem_followFrom _ hstart⟩

variable {g : Grammar} {first follow : SymbolSets}

/-! ### No word too many -/

theorem derives_of_moves {s next : ParserState} (h : (g.parsingTable first follow).Moves s next)
    (hnext : g.Derives next.stack next.input) : g.Derives s.stack s.input := by
  cases h with
  | consume _ stack input => exact (Derives.refl g [_]).append hnext
  | @expand left t entry hleft hentry stack input =>
      have hrule := (mem_rules_of_mem_entries hentry).1
      cases left with
      | nonTerminal name => exact ((Derives.of_rule hrule).append (.refl g stack)).trans hnext
      | epsilon => cases hleft
      | endMarker => cases hleft
      | terminal name => cases hleft

theorem derives_of_runs {s : ParserState}
    (h : (g.parsingTable first follow).Runs s .accepting) : g.Derives s.stack s.input := by
  induction h using Relation.ReflTransGen.head_induction_on with
  | refl => exact .refl g []
  | head hmove _ ih => exact derives_of_moves hmove ih

theorem generates_of_accepts {start : Symbol} {word : List String}
    (h : (g.parsingTable first follow).Accepts start word) : g.Generates start word := by
  have hderives : g.Derives ([start] ++ [.endMarker]) (word.map .terminal ++ [.endMarker]) :=
    derives_of_runs h
  obtain ⟨γ₁, γ₂, heq, h₁, h₂⟩ := derives_append_iff.mp hderives
  obtain ⟨γ₃, rfl, h₃⟩ := (derives_cons_iff rfl).mp h₂
  obtain rfl := derives_nil_iff.mp h₃
  rw [Generates, List.append_cancel_right heq]
  exact h₁

/-! ### No word missing -/

theorem exists_next (word : List String) {t : Symbol} (ht : t.IsInput) (input : List Symbol) :
    ∃ next rest, word.map .terminal ++ t :: input = next :: rest ∧ next.IsInput ∧
      ∀ first, firstOf first (word.map .terminal ++ [t]) = [next] := by
  cases word with
  | nil => exact ⟨t, input, rfl, ht, fun first => firstOf_cons_of_isInput first ht []⟩
  | cons name word => exact ⟨.terminal name, _, rfl, .inl rfl, fun _ => rfl⟩

/-- What a form and a symbol behind it can begin with, when a word is derived from the form. -/
theorem FirstClosed.mem_firstOf_of_next (h : g.FirstClosed first) {α : List Symbol}
    {word : List String} (hα : g.Derives α (word.map .terminal)) {t next : Symbol}
    (hnext : firstOf first (word.map .terminal ++ [t]) = [next]) :
    next ∈ firstOf first (α ++ [t]) := by
  apply h.mem_firstOf_of_derives (hα.append (.refl g [t]))
  rw [hnext]
  exact List.mem_cons_self

namespace Saturated

theorem fits (h : g.Saturated first follow) {left t : Symbol} {a : Alternative}
    (hrule : (left, a) ∈ g.rules) (ht : t.IsInput) (hfollow : follow.contains left t = true) :
    Fits first follow [t] (visible a) := by
  refine h.followClosed.fits hrule fun s hs _ => ?_
  rw [firstOf_cons_of_isInput first ht, List.mem_singleton] at hs
  exact hs ▸ hfollow

theorem fits_nil (h : g.Saturated first follow) {left : Symbol} {a : Alternative}
    (hrule : (left, a) ∈ g.rules) : Fits first follow [] (visible a) :=
  h.followClosed.fits hrule fun _ hs hne => absurd (List.mem_singleton.mp hs) hne

/-- A form that derives a word can be matched with it, and what stands behind both is left. -/
theorem runs_of_yields (h : g.Saturated first follow) {α : List Symbol} {word : List String}
    (hα : g.Yields α (word.map .terminal)) {t : Symbol} (ht : t.IsInput)
    (hfits : Fits first follow [t] α) (stack input : List Symbol) :
    (g.parsingTable first follow).Runs ⟨α ++ stack, word.map .terminal ++ t :: input⟩
      ⟨stack, t :: input⟩ := by
  generalize hβ : word.map Symbol.terminal = β at hα
  induction hα generalizing word t stack input with
  | nil => exact .refl
  | keep s _ ih =>
      obtain ⟨name, word, rfl, rfl, rfl⟩ := List.map_eq_cons_iff.mp hβ
      exact .head (.consume (.inl rfl) _ _)
        (ih ht (hfits.of_suffix (List.suffix_cons _ _)) stack input rfl)
  | @expand name a α β γ hrule ha hα iha ih =>
      obtain ⟨u, v, rfl, rfl, rfl⟩ := List.map_eq_append_iff.mp hβ
      -- The symbol after the part of the non-terminal, and the symbol in front of that part.
      obtain ⟨behind, rest, hbehind, hinput, hfirst⟩ := exists_next v ht input
      have hfollow : follow.contains (.nonTerminal name) behind = true :=
        hfits name α (List.suffix_refl _) behind
          (h.firstClosed.mem_firstOf_of_next (yields_iff_derives.mp hα) (hfirst first))
          hinput.ne_epsilon
      obtain ⟨next, rest', hnext, -, hfirst'⟩ := exists_next u hinput rest
      have hmem : next ∈ firstOf first (a ++ [behind]) := by
        have hvisible : next ∈ firstOf first (visible a ++ [behind]) :=
          h.firstClosed.mem_firstOf_of_next (yields_iff_derives.mp ha) (hfirst' first)
        rwa [mem_firstOf_append, firstOf_visible, ← mem_firstOf_append]
          at hvisible
      have hmove := h.wellFormed.expand_moves rfl hrule
        (mem_lookaheads_of_mem_firstOf_append hinput hfollow hmem) (α ++ stack) rest'
      rw [List.cons_append, List.append_assoc, hbehind, hnext]
      refine .head hmove ?_
      rw [← hnext]
      refine (iha hinput (h.fits hrule hinput hfollow) (α ++ stack) rest rfl).trans ?_
      rw [← hbehind]
      exact ih ht (hfits.of_suffix (List.suffix_cons _ _)) stack input rfl

theorem runs_of_vanishes (h : g.Saturated first follow) {α : List Symbol} (hα : g.Yields α [])
    {t : Symbol} (ht : t.IsInput) (hfits : Fits first follow [t] α) (stack input : List Symbol) :
    (g.parsingTable first follow).Runs ⟨α ++ stack, t :: input⟩ ⟨stack, t :: input⟩ := by
  have hword : g.Yields α (([] : List String).map .terminal) := hα
  exact h.runs_of_yields hword ht hfits stack input

theorem accepts_of_generates (h : g.Saturated first follow) {start : Symbol}
    (hstart : g.start? = some start) {word : List String} (hword : g.Generates start word) :
    (g.parsingTable first follow).Accepts start word := by
  have hend : Symbol.endMarker.IsInput := .inr rfl
  have hfits : Fits first follow [.endMarker] [start] :=
    fits_singleton_endMarker (h.start start hstart)
  have hruns := h.runs_of_yields (yields_iff_derives.mpr hword) hend hfits [.endMarker] []
  exact hruns.tail (.consume hend [] [])

theorem accepts_iff (h : g.Saturated first follow) {start : Symbol}
    (hstart : g.start? = some start) (word : List String) :
    (g.parsingTable first follow).Accepts start word ↔ g.Generates start word :=
  ⟨generates_of_accepts, h.accepts_of_generates hstart⟩

end Saturated

end Grammar

end Predictive
