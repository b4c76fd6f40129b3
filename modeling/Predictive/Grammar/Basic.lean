import Predictive.Grammar.Error

/-!
# Grammars

A grammar is a symbol table, a list of productions in the order in which their left sides were
first declared, and a start symbol. The first production ever declared designates the start symbol.

An alternative is the right side of one choice. The empty word is written `[ε]`, and `ε` stands
nowhere else: `Alternative.ofSequence` brings a sequence of symbols into this form and `add`
applies it. There are two views of the productions: `rules` gives the pairs of a left side and an
alternative in order, and `production?` the production of a left side.
-/

namespace Predictive

abbrev Alternative := List Symbol

namespace Alternative

/-- The empty sequence is written `[ε]`. -/
def orEpsilon : List Symbol → Alternative
  | [] => [.epsilon]
  | s :: rest => s :: rest

/-- The alternative that a sequence of symbols spells: `ε` is dropped beside other symbols. -/
def ofSequence (sequence : List Symbol) : Alternative :=
  orEpsilon (sequence.filter (· != .epsilon))

/-- The symbol an alternative begins with. The empty word begins with none. -/
def leading? : Alternative → Option Symbol
  | [] => none
  | .epsilon :: _ => none
  | s :: _ => some s

def names (alternative : Alternative) : List String :=
  alternative.map Symbol.name

/-- The names of an alternative, separated by one space. -/
def text (alternative : Alternative) : String :=
  " ".intercalate (names alternative)

theorem orEpsilon_ne_nil (sequence : List Symbol) : orEpsilon sequence ≠ [] := by
  cases sequence <;> simp [orEpsilon]

theorem ofSequence_nil : ofSequence [] = [.epsilon] := rfl

theorem ofSequence_ne_nil (sequence : List Symbol) : ofSequence sequence ≠ [] :=
  orEpsilon_ne_nil _

theorem ofSequence_of_notMem {sequence : List Symbol} (h : .epsilon ∉ sequence)
    (hne : sequence ≠ []) : ofSequence sequence = sequence := by
  have hfilter : sequence.filter (· != Symbol.epsilon) = sequence := by
    rw [List.filter_eq_self]
    intro s hs
    simp only [bne_iff_ne, ne_eq]
    exact fun he => h (he ▸ hs)
  rw [ofSequence, hfilter]
  cases sequence with
  | nil => exact absurd rfl hne
  | cons s rest => rfl

end Alternative

structure Production where
  left : Symbol
  alternatives : List Alternative
deriving DecidableEq

namespace Production

/-- Appends an alternative to the production of `left`, and leaves any other production as it is. -/
def appendFor (p : Production) (left : Symbol) (alternative : Alternative) : Production :=
  if p.left = left then { p with alternatives := p.alternatives ++ [alternative] } else p

theorem left_appendFor (p : Production) (left : Symbol) (alternative : Alternative) :
    (p.appendFor left alternative).left = p.left := by
  unfold appendFor
  split <;> rfl

end Production

structure Grammar where
  symbols : SymbolTable
  productions : List Production
  start? : Option Symbol
deriving DecidableEq

namespace Grammar

def empty : Grammar := ⟨.empty, [], none⟩

/-- The grammar with the same symbols and the same start symbol but no productions. -/
def withoutProductions (g : Grammar) : Grammar :=
  { g with productions := [] }

def terminals (g : Grammar) : List Symbol := g.symbols.terminals

def nonTerminals (g : Grammar) : List Symbol := g.symbols.nonTerminals

def production? (g : Grammar) (left : Symbol) : Option Production :=
  g.productions.find? fun p => p.left == left

/-- The left sides and their alternatives, in order. -/
def rules (g : Grammar) : List (Symbol × Alternative) :=
  g.productions.flatMap fun p => p.alternatives.map fun a => (p.left, a)

/-- Gives `left` a production without alternatives, unless it has one. -/
def declare (g : Grammar) (left : Symbol) : Grammar :=
  if (g.production? left).isSome then g
  else
    { g with
      productions := g.productions ++ [⟨left, []⟩]
      start? := g.start? <|> some left }

/-- Appends the alternative that a sequence spells to the production of `left`. -/
def add (g : Grammar) (left : Symbol) (sequence : List Symbol) : Grammar :=
  let declared := g.declare left
  { declared with
    productions := declared.productions.map (·.appendFor left (.ofSequence sequence)) }

def intern (g : Grammar) (s : Symbol) : Except SymbolError Grammar :=
  (g.symbols.intern s).map fun symbols => { g with symbols }

/-- A new non-terminal named after `base`, and the grammar with it. -/
def fresh (g : Grammar) (base : String) : Symbol × Grammar :=
  let r := g.symbols.fresh base
  (r.1, { g with symbols := r.2 })

/-- The first non-terminal on a right side that has no production. -/
def undefined? (g : Grammar) : Option Symbol :=
  (g.rules.flatMap fun r => r.2).find? fun s => s.isNonTerminal && (g.production? s).isNone

/-- Checks that there is a start symbol and that every non-terminal on a right side has a
production. -/
def validate (g : Grammar) : Except GrammarError Unit :=
  if g.start?.isNone then .error .empty
  else
    match g.undefined? with
    | some s => .error (.undefinedNonTerminal s)
    | none => .ok ()

theorem declare_eq_self {g : Grammar} {left : Symbol} (h : (g.production? left).isSome) :
    g.declare left = g := by
  rw [declare, if_pos h]

theorem symbols_declare (g : Grammar) (left : Symbol) : (g.declare left).symbols = g.symbols := by
  unfold declare
  split <;> rfl

theorem symbols_add (g : Grammar) (left : Symbol) (sequence : List Symbol) :
    (g.add left sequence).symbols = g.symbols :=
  symbols_declare g left

theorem left_of_production?_eq_some {g : Grammar} {left : Symbol} {p : Production}
    (h : g.production? left = some p) : p.left = left := by
  simpa using List.find?_some h

theorem production?_declare (g : Grammar) (left s : Symbol) :
    (g.declare left).production? s =
      if s = left then some ((g.production? left).getD ⟨left, []⟩) else g.production? s := by
  cases h : g.production? left with
  | some p =>
      rw [declare_eq_self (by simp [h])]
      by_cases hs : s = left
      · rw [if_pos hs, hs, h, Option.getD_some]
      · rw [if_neg hs]
  | none =>
      rw [declare, h, if_neg (by simp)]
      unfold production? at h ⊢
      rw [List.find?_append]
      by_cases hs : s = left
      · subst hs
        simp [h]
      · simp [hs, Ne.symm hs]

theorem mem_rules_iff (g : Grammar) (left : Symbol) (a : Alternative) :
    (left, a) ∈ g.rules ↔ ∃ p ∈ g.productions, p.left = left ∧ a ∈ p.alternatives := by
  simp only [rules, List.mem_flatMap, List.mem_map, Prod.mk.injEq]
  constructor
  · rintro ⟨p, hp, b, hb, rfl, rfl⟩
    exact ⟨p, hp, rfl, hb⟩
  · rintro ⟨p, hp, rfl, ha⟩
    exact ⟨p, hp, a, ha, rfl, rfl⟩

end Grammar

end Predictive
