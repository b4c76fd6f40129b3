import Predictive.Proofs.Reading.Load

/-!
# Names that can be read again

A symbol is legible when its name, put as a word into the text of an alternative, is read as that
symbol. The symbols of a text are legible: a token is a part of a segment, which has neither bar nor
arrow, and there is no blank in it. A left side is legible because its name has none of the
characters that a text is cut at.
-/

namespace Predictive

namespace Symbol

structure Legible (s : Symbol) : Prop where
  spelled : s.Spelled
  isWord : Text.IsWord s.name.toList
  noBar : '|' ∉ s.name.toList
  noArrow : Text.NoArrow s.name.toList
  notEpsilon : isEpsilonWord s.name.toList = false

theorem Legible.symbol_ofWord {s : Symbol} (h : s.Legible) :
    (Token.ofWord s.name.toList).symbol = s := by
  rw [Token.symbol_ofWord h.notEpsilon, ← h.spelled, String.ofList_toList, ofKind_kind_name]

namespace IsLeftName

variable {s : Symbol}

theorem isNameChar_of_mem (h : s.IsLeftName) : ∀ c ∈ s.name.toList, isNameChar c = true := by
  have hname := h.name
  cases hcs : s.name.toList with
  | nil => simp
  | cons c cs =>
      simp only [hcs, isNonTerminalName, Bool.and_eq_true, List.all_eq_true] at hname
      refine List.forall_mem_cons.mpr ⟨?_, hname.2⟩
      simp [isNameChar, Char.isAlphanum, Char.isAlpha, hname.1]

theorem legible (h : s.IsLeftName) : s.Legible where
  spelled := h.spelled
  isWord := by
    refine ⟨fun hnil => ?_, fun c hc => not_isBlank_of_isNameChar (h.isNameChar_of_mem c hc)⟩
    have hupper := h.startsUpper
    rw [hnil] at hupper
    cases hupper
  noBar hbar := absurd (h.isNameChar_of_mem _ hbar) (by decide)
  noArrow := Text.noArrow_of_notMem fun hhyphen =>
    absurd (h.isNameChar_of_mem _ hhyphen) (by decide)
  notEpsilon := Token.not_isEpsilonWord_of_startsUpper h.startsUpper

/-- A name with characters of names behind it stands on a left side like the name itself. -/
theorem append (h : s.IsLeftName) {cs : List Char} (hcs : ∀ c ∈ cs, isNameChar c = true) :
    isNonTerminalName (s.name.toList ++ cs) = true := by
  have hname := h.name
  cases hs : s.name.toList with
  | nil => simp [hs, isNonTerminalName] at hname
  | cons c rest =>
      simp only [hs, isNonTerminalName, Bool.and_eq_true] at hname
      simpa [isNonTerminalName, hname] using hcs

theorem candidate (h : s.IsLeftName) (n : ℕ) :
    (nonTerminal (SymbolTable.candidate s.name n)).IsLeftName := by
  refine ⟨rfl, ?_⟩
  cases n with
  | zero =>
      rw [Symbol.name, SymbolTable.toList_candidate_zero]
      exact h.append (by simp [isNameChar])
  | succ n =>
      rw [Symbol.name, SymbolTable.toList_candidate_succ]
      refine h.append (List.forall_mem_cons.mpr ⟨by decide, fun c hc => ?_⟩)
      have hdigit := Nat.isDigit_of_mem_toDigits (by decide) (by decide) hc
      simp [isNameChar, Char.isAlphanum, hdigit]

end IsLeftName

end Symbol

/-! ### Names in a text -/

namespace Token

theorem name_symbol_ofWord (word : List Char) :
    ofWord word = .epsilon ∨ (ofWord word).symbol.name.toList = word := by
  unfold ofWord
  split
  · exact .inl rfl
  · split <;> simp [symbol, Symbol.name]

theorem isWord_of_mem_ofText {lexing : Lexing} {cs : List Char} {token : Token}
    (h : token ∈ ofText lexing cs) :
    token = .epsilon ∨
      Text.IsWord token.symbol.name.toList ∧ token.symbol.name.toList <:+: cs := by
  obtain ⟨word, rfl, hword⟩ := exists_word_of_mem_ofText h
  refine (name_symbol_ofWord word).imp_right fun hname => ?_
  rwa [hname]

theorem legible_of_mem_ofText {lexing : Lexing} {cs : List Char} (hbar : '|' ∉ cs)
    (harrow : Text.NoArrow cs) {token : Token} (h : token ∈ ofText lexing cs) :
    token = .epsilon ∨ token.symbol.Legible := by
  rcases spelled_of_mem_ofText h with hepsilon | ⟨hspelled, hword⟩
  · exact .inl hepsilon
  · refine (isWord_of_mem_ofText h).imp_right fun ⟨hisWord, hpart⟩ => ?_
    exact ⟨hspelled, hisWord, fun hmem => hbar (hpart.subset hmem), harrow.of_isInfix hpart, hword⟩

end Token

namespace Reading

theorem Accepted.noArrow {lines : List (List Char)} {left : Symbol} {rights : List Char}
    (h : Accepted lines left rights) : Text.NoArrow rights := by
  cases h with
  | rule before harrow hname => exact harrow.2.2.of_isInfix (Text.trim_isInfix _)
  | @continuation line rest rights' before _ harrow hbar hbefore =>
      have hrest : rest <:+: Text.trim line := hbar ▸ (List.suffix_cons '|' rest).isInfix
      have hrights := (Text.trim_isInfix rest).trans hrest
      exact harrow.of_isInfix (hrights.trans (Text.trim_isInfix line))

theorem Reads.segment {before : List (List Char)} {lines : List (List Char × ℕ)}
    {rules : List RuleLine} {rejected : List ℕ} (h : Reads before lines rules rejected)
    {segment : Segment} (hsegment : segment ∈ rules.flatMap segments) :
    '|' ∉ segment.text ∧ Text.NoArrow segment.text := by
  obtain ⟨rule, hrule, hmem⟩ := List.mem_flatMap.mp hsegment
  obtain ⟨text, htext, rfl⟩ := List.mem_map.mp hmem
  obtain ⟨seen, haccepted⟩ := h.exists_accepted hrule
  rw [List.splitOn_eq_splitOnP] at htext
  obtain ⟨hpart, hbar⟩ := Text.infix_of_mem_splitOnP htext
  exact ⟨fun hmem => absurd (hbar _ hmem) (by simp), haccepted.noArrow.of_isInfix hpart⟩

end Reading

end Predictive
