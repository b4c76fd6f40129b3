import Predictive.Proofs.Token.Lexeme

/-!
# Texts with blanks between the tokens

A blank separates the tokens in front of it from those behind it, in both ways of lexing
(`Token.ofText_append_blank`). So compact lexing, too, goes over a text word by word
(`Token.compact_eq_flatMap_words`), and the two ways can differ only in what they make of one word.
They agree on a character and on the name of a non-terminal. This is the case for every word when
the lexemes of some text are written with spaces between them, so they are read again as the tokens
that they stand for.
-/

namespace Predictive

/-- A run goes no further than a character that does not belong to it. -/
theorem takeWhile_dropWhile_append_cons {p : Char → Bool} {c : Char} (hc : p c = false)
    (xs ys : List Char) :
    (xs ++ c :: ys).takeWhile p = xs.takeWhile p ∧
      (xs ++ c :: ys).dropWhile p = xs.dropWhile p ++ c :: ys := by
  induction xs with
  | nil => simp [hc]
  | cons x xs ih =>
      by_cases hx : p x = true
      · simp [hx, ih]
      · simp [hx]

theorem isNameChar_eq_false_of_isBlank {c : Char} (h : Text.isBlank c = true) :
    isNameChar c = false := by
  rw [← Bool.not_eq_true]
  intro hname
  rw [not_isBlank_of_isNameChar hname] at h
  cases h

namespace Token

theorem compact_append_blank {c : Char} (hc : Text.isBlank c = true) (xs ys : List Char) :
    compact (xs ++ c :: ys) = compact xs ++ compact ys := by
  fun_induction compact xs with
  | case1 => rw [List.nil_append, compact_blank ys hc, List.nil_append]
  | case2 x xs hblank ih => rw [List.cons_append, compact_blank _ hblank, ih]
  | case3 x xs hblank hupper ih =>
      obtain ⟨htake, hdrop⟩ :=
        takeWhile_dropWhile_append_cons (isNameChar_eq_false_of_isBlank hc) xs ys
      rw [List.cons_append, compact, if_neg hblank, if_pos hupper, htake, hdrop, ih,
        List.cons_append]
  | case4 x xs hblank hupper hepsilon ih =>
      rw [List.cons_append, compact, if_neg hblank, if_neg hupper, if_pos hepsilon, ih,
        List.cons_append]
  | case5 x xs hblank hupper hepsilon ih =>
      rw [List.cons_append, compact, if_neg hblank, if_neg hupper, if_neg hepsilon, ih,
        List.cons_append]

/-- A blank separates the tokens before it from those behind it. -/
theorem ofText_append_blank (lexing : Lexing) {c : Char} (hc : Text.isBlank c = true)
    (xs ys : List Char) :
    ofText lexing (xs ++ c :: ys) = ofText lexing xs ++ ofText lexing ys := by
  cases lexing with
  | compact => exact compact_append_blank hc xs ys
  | words => rw [ofText, Text.words_append_blank hc, List.map_append]; rfl

theorem ofText_nil (lexing : Lexing) : ofText lexing [] = [] := by
  cases lexing with
  | compact => exact compact_nil
  | words => rfl

theorem flatMap_compact_words {cs : List Char} (h : ∀ c ∈ cs, Text.isBlank c = false) :
    (Text.words cs).flatMap compact = compact cs := by
  cases cs with
  | nil => rw [compact_nil]; rfl
  | cons c cs => rw [Text.words_eq_singleton (List.cons_ne_nil c cs) h, List.flatMap_singleton]

/-- Compact lexing goes over a text word by word. -/
theorem compact_eq_flatMap_words (cs : List Char) :
    compact cs = (Text.words cs).flatMap compact := by
  have hcs := List.takeWhile_append_dropWhile (p := fun c => !Text.isBlank c) (l := cs)
  have hword : ∀ c ∈ cs.takeWhile fun c => !Text.isBlank c, Text.isBlank c = false :=
    fun c hc => by simpa using List.mem_takeWhile_imp hc
  cases hrest : cs.dropWhile fun c => !Text.isBlank c with
  | nil =>
      rw [hrest, List.append_nil] at hcs
      rw [hcs] at hword
      exact (flatMap_compact_words hword).symm
  | cons c rest =>
      have hc : Text.isBlank c = true := by
        have hhead := List.head?_dropWhile_not (fun c => !Text.isBlank c) cs
        simpa [hrest] using hhead
      have hlength : rest.length < cs.length := by
        have hle := (List.dropWhile_sublist fun c => !Text.isBlank c : List.Sublist _ cs).length_le
        rw [hrest] at hle
        exact hle
      rw [hrest] at hcs
      rw [← hcs, compact_append_blank hc, Text.words_append_blank hc, List.flatMap_append,
        flatMap_compact_words hword, compact_eq_flatMap_words rest]
  termination_by cs.length

theorem compact_of_isNonTerminalName {word : List Char} (h : isNonTerminalName word = true) :
    compact word = [ofWord word] := by
  cases word with
  | nil => cases h
  | cons c cs =>
      have hchars := isNameChar_of_isNonTerminalName h
      have hblank := not_isBlank_of_isNameChar (hchars c List.mem_cons_self)
      simp only [isNonTerminalName, Bool.and_eq_true, List.all_eq_true] at h
      have hupper : startsUpper (c :: cs) = true := h.1
      rw [compact, if_neg (by simp [hblank]), if_pos h.1, List.takeWhile_eq_self_iff.mpr h.2,
        List.dropWhile_eq_nil_iff.mpr h.2, compact_nil, ofWord_of_startsUpper hupper]

theorem compact_singleton {c : Char} (h : Text.isBlank c = false) : compact [c] = [ofWord [c]] := by
  by_cases hupper : c.isUpper = true
  · exact compact_of_isNonTerminalName (by simp [isNonTerminalName, hupper])
  · rw [compact, if_neg (by simp [h]), if_neg hupper, ofWord_singleton hupper, compact_nil]
    split <;> rfl

/-- The two ways to cut a text into tokens agree when every word is a character or a name. -/
theorem compact_eq_map_ofWord {cs : List Char}
    (h : ∀ word ∈ Text.words cs, word.length = 1 ∨ isNonTerminalName word = true) :
    compact cs = (Text.words cs).map ofWord := by
  have hword : ∀ word ∈ Text.words cs, compact word = [ofWord word] := by
    intro word hmem
    rcases h word hmem with hone | hname
    · obtain ⟨c, rfl⟩ := List.length_eq_one_iff.mp hone
      exact compact_singleton ((Text.isWord_of_mem_words hmem).1.not_blank c List.mem_cons_self)
    · exact compact_of_isNonTerminalName hname
  rw [compact_eq_flatMap_words, List.flatMap_congr hword, List.map_eq_flatMap]

end Token

theorem Lexeme.Proper.length_text_or {l : Lexeme} (h : l.Proper) :
    l.text.length = 1 ∨ isNonTerminalName l.text = true := by
  cases h with
  | epsilon => exact .inl rfl
  | terminal => exact .inl rfl
  | nonTerminal hname => exact .inr hname

open Token in
/-- Compact lexing and word lexing agree on a text whose words are single characters and names. So
when the lexemes of a text are written with a space between them, both read the tokens of the text.
-/
theorem ofText_of_spaced :
    (∀ cs : List Char,
      (∀ word ∈ Text.words cs, word.length = 1 ∨ isNonTerminalName word = true) →
      ofText .compact cs = ofText .words cs) ∧
    ∀ cs : List Char, (∃ lexemes, Munched cs lexemes) ∧
      ∀ lexemes, Munched cs lexemes → ∀ lexing,
        ofText lexing ([' '].intercalate (lexemes.map Lexeme.text)) = ofText .compact cs := by
  refine ⟨fun cs h => compact_eq_map_ofWord h, fun cs => ⟨?_, fun lexemes h lexing => ?_⟩⟩
  · obtain ⟨lexemes, h, -⟩ := exists_munched cs
    exact ⟨lexemes, h⟩
  · have hwords : Text.words ([' '].intercalate (lexemes.map Lexeme.text)) =
        lexemes.map Lexeme.text :=
      Text.words_intercalate (List.forall_mem_map.mpr fun l hl => (h.proper l hl).isWord)
    have htokens : (lexemes.map Lexeme.text).map ofWord = ofText .compact cs := by
      have hlexed : LexedAs cs lexemes .compact := h
      rw [← hlexed.map_token, List.map_map]
      exact List.map_congr_left fun l hl => (h.proper l hl).ofWord_text
    have hread := (congrArg (List.map ofWord) hwords).trans htokens
    cases lexing with
    | words => exact hread
    | compact =>
        refine (compact_eq_map_ofWord ?_).trans hread
        rw [hwords]
        exact List.forall_mem_map.mpr fun l hl => (h.proper l hl).length_text_or

/-- Both an `ε` and names of more than one character, and lexemes that stand side by side. -/
theorem ofText_of_spaced_names :
    Token.ofText .compact "Ab' + ϵ".toList = Token.ofText .words "Ab' + ϵ".toList ∧
      ∃ lexemes, Munched "aB'1ϵC_+".toList lexemes ∧
        Token.ofText .words ([' '].intercalate (lexemes.map Lexeme.text)) =
          [.terminal "a", .nonTerminal "B'1", .epsilon, .nonTerminal "C_", .terminal "+"] := by
  obtain ⟨hagree, hjoin⟩ := ofText_of_spaced
  obtain ⟨⟨lexemes, h⟩, hread⟩ := hjoin "aB'1ϵC_+".toList
  have hwords : ∀ word ∈ Text.words "Ab' + ϵ".toList,
      word.length = 1 ∨ isNonTerminalName word = true := by decide
  exact ⟨hagree _ hwords, lexemes, h, (hread lexemes h .words).trans (by cbv)⟩

end Predictive
