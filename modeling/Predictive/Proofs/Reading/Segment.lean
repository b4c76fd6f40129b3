import Mathlib
import Predictive.Grammar.Reading
import Predictive.Proofs.Symbol.Table
import Predictive.Proofs.Text

/-!
# The symbols of a piece of a line

A token is a word that is a part of the text (`Token.exists_word_of_mem_ofText`). So it is `ε` or
has the kind that its text spells: a non-terminal begins with an upper-case letter and a terminal
does not. A table that holds such symbols only has no symbol of another kind for a name, so it
refuses nothing but the reserved name `$` (`SymbolTable.Spelled.intern`). A piece is therefore
refused exactly when `$` is one of its tokens (`SymbolTable.Spelled.internAll`).
-/

namespace Predictive

theorem not_isBlank_of_isNameChar {c : Char} (h : isNameChar c = true) :
    Text.isBlank c = false := by
  simp only [isNameChar, Char.isAlphanum, Char.isAlpha, Char.isUpper, Char.isLower, Char.isDigit,
    Bool.or_eq_true, Bool.and_eq_true, decide_eq_true_eq, beq_iff_eq, ge_iff_le,
    UInt32.le_iff_toNat_le] at h
  simp only [Text.isBlank, Text.blankRanges, List.any_cons, List.any_nil, Char.toNat]
  rcases h with (((h | h) | h) | rfl) | rfl
  · simp at h ⊢
    omega
  · simp at h ⊢
    omega
  · simp at h ⊢
    omega
  · decide
  · decide

namespace Symbol

def Spelled (s : Symbol) : Prop :=
  s.kind = Kind.ofWord s.name.toList

theorem spelled_nonTerminal_iff {name : String} :
    (nonTerminal name).Spelled ↔ startsUpper name.toList = true := by
  rw [Spelled, kind, Symbol.name, Kind.ofWord]
  split <;> simp_all

theorem spelled_terminal_iff {name : String} :
    (terminal name).Spelled ↔ startsUpper name.toList = false := by
  rw [Spelled, kind, Symbol.name, Kind.ofWord]
  split <;> simp_all

namespace Spelled

variable {s t : Symbol}

theorem isTerminal_or (h : s.Spelled) : s.isTerminal = true ∨ s.isNonTerminal = true := by
  rw [isTerminal_iff, isNonTerminal_iff, h, Kind.ofWord]
  split <;> simp

theorem eq_of_name_eq (hs : s.Spelled) (ht : t.Spelled) (h : s.name = t.name) : s = t := by
  rw [← ofKind_kind_name s, ← ofKind_kind_name t, hs, ht, h]

theorem name_eq_endMarkerName_iff (h : s.Spelled) :
    s.name = endMarkerName ↔ s = .terminal endMarkerName := by
  refine ⟨fun hname => h.eq_of_name_eq ?_ hname, fun heq => heq ▸ rfl⟩
  exact spelled_terminal_iff.mpr (by decide)

end Spelled

structure IsLeftName (s : Symbol) : Prop where
  kind_eq : s.kind = .nonTerminal
  name : isNonTerminalName s.name.toList = true

namespace IsLeftName

variable {s : Symbol}

theorem of_isNonTerminalName {cs : List Char} (h : isNonTerminalName cs = true) :
    (nonTerminal (String.ofList cs)).IsLeftName where
  kind_eq := rfl
  name := by simpa [Symbol.name] using h

theorem nonTerminal_name (h : s.IsLeftName) : nonTerminal s.name = s := by
  conv_rhs => rw [← ofKind_kind_name s, h.kind_eq]
  rfl

theorem startsUpper (h : s.IsLeftName) : startsUpper s.name.toList = true := by
  have hname := h.name
  cases hcs : s.name.toList with
  | nil => simp [hcs, isNonTerminalName] at hname
  | cons c cs =>
      simp only [hcs, isNonTerminalName, Bool.and_eq_true] at hname
      exact hname.1

theorem spelled (h : s.IsLeftName) : s.Spelled := by
  rw [Spelled, h.kind_eq, Kind.ofWord, if_pos h.startsUpper]

end IsLeftName

end Symbol

namespace Token

theorem symbol_eq_terminal_iff {token : Token} {name : String} :
    token.symbol = .terminal name ↔ token = .terminal name := by
  cases token <;> simp [symbol]

/-- A word that is not another way to write `ε` is read as the symbol that it spells. -/
theorem symbol_ofWord {word : List Char} (h : isEpsilonWord word = false) :
    (ofWord word).symbol = .ofKind (Kind.ofWord word) (String.ofList word) := by
  rw [ofWord, if_neg (by simp [h]), Kind.ofWord]
  split <;> rfl

theorem not_isEpsilonWord_of_startsUpper {word : List Char} (h : startsUpper word = true) :
    isEpsilonWord word = false := by
  rw [← Bool.not_eq_true]
  intro hword
  simp only [isEpsilonWord, Bool.or_eq_true, beq_iff_eq] at hword
  rcases hword with (rfl | rfl) | rfl
  all_goals exact absurd h (by decide)

theorem ofWord_of_startsUpper {word : List Char} (h : startsUpper word = true) :
    ofWord word = .nonTerminal (String.ofList word) := by
  rw [ofWord, if_neg (by simp [not_isEpsilonWord_of_startsUpper h]), if_pos h]

theorem ofWord_singleton {c : Char} (h : ¬ c.isUpper = true) :
    ofWord [c] = if isEpsilonChar c then .epsilon else .terminal (String.ofList [c]) := by
  have hepsilon : isEpsilonWord [c] = isEpsilonChar c := by
    simp [isEpsilonWord, isEpsilonChar]
  rw [ofWord, hepsilon, if_neg (c := startsUpper [c] = true) h]

theorem exists_word_of_mem_compact {cs : List Char} {token : Token} (h : token ∈ compact cs) :
    ∃ word, token = ofWord word ∧ Text.IsWord word ∧ word <:+: cs := by
  have hsingle : ∀ {c : Char} (cs : List Char), ¬ Text.isBlank c = true →
      Text.IsWord [c] ∧ [c] <:+: c :: cs := fun {c} cs hblank =>
    ⟨⟨List.cons_ne_nil _ _, by simpa using hblank⟩, (List.prefix_append [c] cs).isInfix⟩
  fun_induction compact cs with
  | case1 => cases h
  | case2 c cs hblank ih =>
      obtain ⟨word, heq, hword, hpart⟩ := ih h
      exact ⟨word, heq, hword, List.infix_cons hpart⟩
  | case3 c cs hblank hupper ih =>
      rcases List.mem_cons.mp h with rfl | h
      · have hstarts : startsUpper (c :: cs.takeWhile isNameChar) = true := hupper
        refine ⟨c :: cs.takeWhile isNameChar, (ofWord_of_startsUpper hstarts).symm,
          ⟨List.cons_ne_nil _ _, List.forall_mem_cons.mpr ⟨by simpa using hblank, ?_⟩⟩, ?_⟩
        · exact fun d hd => not_isBlank_of_isNameChar (List.mem_takeWhile_imp hd)
        · exact (List.cons_prefix_cons.mpr ⟨rfl, List.takeWhile_prefix _⟩).isInfix
      · obtain ⟨word, heq, hword, hpart⟩ := ih h
        exact ⟨word, heq, hword, List.infix_cons (hpart.trans (List.dropWhile_suffix _).isInfix)⟩
  | case4 c cs hblank hupper hepsilon ih =>
      rcases List.mem_cons.mp h with rfl | h
      · exact ⟨[c], by rw [ofWord_singleton hupper, if_pos hepsilon], hsingle cs hblank⟩
      · obtain ⟨word, heq, hword, hpart⟩ := ih h
        exact ⟨word, heq, hword, List.infix_cons hpart⟩
  | case5 c cs hblank hupper hepsilon ih =>
      rcases List.mem_cons.mp h with rfl | h
      · exact ⟨[c], by rw [ofWord_singleton hupper, if_neg hepsilon], hsingle cs hblank⟩
      · obtain ⟨word, heq, hword, hpart⟩ := ih h
        exact ⟨word, heq, hword, List.infix_cons hpart⟩

/-- In both ways to cut a text into tokens, a token is a word that is a part of the text. -/
theorem exists_word_of_mem_ofText {lexing : Lexing} {cs : List Char} {token : Token}
    (h : token ∈ ofText lexing cs) :
    ∃ word, token = ofWord word ∧ Text.IsWord word ∧ word <:+: cs := by
  cases lexing with
  | compact => exact exists_word_of_mem_compact h
  | words =>
      obtain ⟨word, hword, rfl⟩ := List.mem_map.mp h
      exact ⟨word, rfl, Text.isWord_of_mem_words hword⟩

theorem spelled_ofWord (word : List Char) :
    ofWord word = .epsilon ∨
      (ofWord word).symbol.Spelled ∧ isEpsilonWord (ofWord word).symbol.name.toList = false := by
  unfold ofWord
  split
  · exact .inl rfl
  · next hepsilon =>
      right
      split
      · next hupper =>
          exact ⟨Symbol.spelled_nonTerminal_iff.mpr (by simpa using hupper),
            by simpa [symbol, Symbol.name] using hepsilon⟩
      · next hupper =>
          exact ⟨Symbol.spelled_terminal_iff.mpr (by simpa using hupper),
            by simpa [symbol, Symbol.name] using hepsilon⟩

/-- A token is `ε`, or it is spelled and no other way to write `ε`. -/
theorem spelled_of_mem_ofText {lexing : Lexing} {cs : List Char} {token : Token}
    (h : token ∈ ofText lexing cs) :
    token = .epsilon ∨
      token.symbol.Spelled ∧ isEpsilonWord token.symbol.name.toList = false := by
  obtain ⟨word, rfl, -, -⟩ := exists_word_of_mem_ofText h
  exact spelled_ofWord word

end Token

namespace SymbolTable

def Spelled (table : SymbolTable) : Prop :=
  ∀ s ∈ table.named, s.Spelled

theorem spelled_empty : Spelled empty :=
  fun _ h => nomatch h

namespace Spelled

variable {table : SymbolTable} {s : Symbol}

theorem insert (h : table.Spelled) (hs : s.Spelled) : (table.insert s).Spelled := by
  intro t ht
  rcases mem_of_mem_insert ht with ht | rfl
  · exact h t ht
  · exact hs

theorem not_both (h : table.Spelled) (name : String) :
    ¬ (.terminal name ∈ table.named ∧ .nonTerminal name ∈ table.named) := by
  rintro ⟨hterminal, hnonTerminal⟩
  have heq := (h _ hterminal).eq_of_name_eq (h _ hnonTerminal) rfl
  cases heq

/-- Of the spelled symbols a table refuses the end marker only. -/
theorem intern (h : table.Spelled) (hs : s.Spelled) (hne : s.name ≠ Symbol.epsilonName) :
    table.intern s =
      if s = .terminal Symbol.endMarkerName then .error (.reserved Symbol.endMarkerName)
      else .ok (table.insert s) := by
  rw [intern_of_kind table hs.isTerminal_or]
  by_cases hend : s.name = Symbol.endMarkerName
  · rw [if_pos (.inr hend), if_pos (hs.name_eq_endMarkerName_iff.mp hend), hend]
  · rw [if_neg (not_or.mpr ⟨hne, hend⟩), if_neg (mt hs.name_eq_endMarkerName_iff.mpr hend)]
    have hmem : s ∈ table.symbols ↔ s ∈ table.named :=
      mem_symbols_of_nameable ⟨hs.isTerminal_or, hne, hend⟩
    cases hget : table.get? s.name with
    | some held =>
        have hheld := mem_named_of_get?_eq_some hget
        have heq : held = s := (h held hheld).eq_of_name_eq hs (name_of_get?_eq_some hget)
        simp only [if_pos heq]
        rw [SymbolTable.insert, if_pos (hmem.mpr (heq ▸ hheld))]
    | none =>
        have hnew : s ∉ table.named := fun hnamed =>
          (get?_eq_none_iff table s.name).mp hget (List.mem_map_of_mem hnamed)
        simp only
        rw [SymbolTable.insert, if_neg (mt hmem.mp hnew)]

theorem internAll (h : table.Spelled) {sequence : List Symbol}
    (hsequence : ∀ s ∈ sequence, s = .epsilon ∨ s.Spelled ∧ s.name ≠ Symbol.epsilonName) :
    (table.internAll sequence).1.Spelled ∧
      (table.internAll sequence).2 =
        if .terminal Symbol.endMarkerName ∈ sequence then
          some (.reserved Symbol.endMarkerName)
        else none := by
  induction sequence generalizing table with
  | nil => exact ⟨h, by simp [SymbolTable.internAll]⟩
  | cons s rest ih =>
      obtain ⟨hs, hrest⟩ := List.forall_mem_cons.mp hsequence
      rcases hs with rfl | ⟨hs, hne⟩
      · obtain ⟨htable, hnone⟩ := ih h hrest
        simpa [SymbolTable.internAll, SymbolTable.intern, Symbol.kind] using ⟨htable, hnone⟩
      · rw [SymbolTable.internAll, h.intern hs hne]
        by_cases hend : s = .terminal Symbol.endMarkerName
        · -- Nothing is put into the table from the end marker on.
          simpa [if_pos hend, hend] using h
        · obtain ⟨htable, hnone⟩ := ih (h.insert hs) hrest
          simpa [if_neg hend, Ne.symm hend] using ⟨htable, hnone⟩

end Spelled

end SymbolTable

end Predictive
