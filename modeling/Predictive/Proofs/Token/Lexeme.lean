import Predictive.Proofs.Reading.Legible

/-!
# Lexemes

A lexeme is a token together with the piece of a text that it stands for. `Munched` says what the
lexemes of a text are in compact lexing, without saying how they are found: put one behind the other
they are the text without its blanks, none of them has a blank inside, and behind a non-terminal
stands no character that its name could go on with.

A text has exactly one such sequence of lexemes, and its tokens are those of the text
(`exists_munched`). The first lexeme is determined by its first character: if this is an upper-case
letter, the piece has to be the whole run of name characters behind it, because it ends where no
such character follows; otherwise the piece is the character alone.
-/

namespace Predictive

namespace Text

def unspaced (cs : List Char) : List Char :=
  cs.filter fun c => !isBlank c

theorem unspaced_append (xs ys : List Char) : unspaced (xs ++ ys) = unspaced xs ++ unspaced ys :=
  List.filter_append ..

theorem unspaced_cons_blank {c : Char} (hc : isBlank c = true) (cs : List Char) :
    unspaced (c :: cs) = unspaced cs :=
  List.filter_cons_of_neg (by simp [hc])

theorem unspaced_eq_self {cs : List Char} (h : ∀ c ∈ cs, isBlank c = false) : unspaced cs = cs :=
  List.filter_eq_self.mpr fun c hc => by simp [h c hc]

theorem exists_append_of_unspaced {word rest front others more : List Char}
    (hword : ∀ c ∈ word, isBlank c = false) (hcs : word ++ rest = front ++ others)
    (hfront : unspaced front = word ++ more) : ∃ gap, front = word ++ gap := by
  rcases List.append_eq_append_iff.mp hcs with ⟨gap, hgap, -⟩ | ⟨gap, rfl, -⟩
  · exact ⟨gap, hgap⟩
  · rw [unspaced_eq_self fun c hc => hword c (List.mem_append_left _ hc), List.append_assoc,
      List.self_eq_append_right, List.append_eq_nil_iff] at hfront
    exact ⟨[], by rw [hfront.1, List.append_nil, List.append_nil]⟩

end Text

/-- A token and the piece of a text that it stands for. -/
structure Lexeme where
  token : Token
  text : List Char

namespace Lexeme

inductive Proper : Lexeme → Prop
  | epsilon {c : Char} (hepsilon : isEpsilonChar c = true) : Proper ⟨.epsilon, [c]⟩
  | terminal {c : Char} (hblank : Text.isBlank c = false) (hupper : c.isUpper = false)
      (hepsilon : isEpsilonChar c = false) : Proper ⟨.terminal (String.ofList [c]), [c]⟩
  | nonTerminal {name : List Char} (hname : isNonTerminalName name = true) :
      Proper ⟨.nonTerminal (String.ofList name), name⟩

def EndsBefore (l : Lexeme) (rest : List Char) : Prop :=
  (∃ name, l.token = .nonTerminal name) → ∀ c ∈ rest.head?, isNameChar c = false

end Lexeme

/-- The lexemes are those of the text in compact lexing: proper ones, which in their order make up
the text without its blanks. Each stands in the text in one piece, behind those before it and in
front of those after it, and ends where its name cannot go on. -/
structure Munched (cs : List Char) (lexemes : List Lexeme) : Prop where
  proper : ∀ l ∈ lexemes, l.Proper
  flatMap_text : lexemes.flatMap Lexeme.text = Text.unspaced cs
  placed : ∀ before l after, lexemes = before ++ l :: after → ∃ front rest,
    cs = front ++ (l.text ++ rest) ∧ Text.unspaced front = before.flatMap Lexeme.text ∧
      Text.unspaced rest = after.flatMap Lexeme.text ∧ l.EndsBefore rest

/-- The lexemes of a text. In word lexing they are its words. -/
def LexedAs (cs : List Char) (lexemes : List Lexeme) : Lexing → Prop
  | .compact => Munched cs lexemes
  | .words => lexemes = (Text.words cs).map fun word => ⟨.ofWord word, word⟩

theorem isEpsilonChar_eq_false_of_isUpper {c : Char} (h : c.isUpper = true) :
    isEpsilonChar c = false := by
  rw [← Bool.not_eq_true]
  intro hepsilon
  simp only [isEpsilonChar, Bool.or_eq_true, beq_iff_eq] at hepsilon
  rcases hepsilon with rfl | rfl
  · exact absurd h (by decide)
  · exact absurd h (by decide)

theorem isBlank_eq_false_of_isEpsilonChar {c : Char} (h : isEpsilonChar c = true) :
    Text.isBlank c = false := by
  simp only [isEpsilonChar, Bool.or_eq_true, beq_iff_eq] at h
  rcases h with rfl | rfl <;> decide

theorem isNameChar_of_isNonTerminalName {name : List Char} (h : isNonTerminalName name = true) :
    ∀ c ∈ name, isNameChar c = true := by
  cases name with
  | nil => simp
  | cons c name =>
      simp only [isNonTerminalName, Bool.and_eq_true, List.all_eq_true] at h
      refine List.forall_mem_cons.mpr ⟨?_, h.2⟩
      simp [isNameChar, Char.isAlphanum, Char.isAlpha, h.1]

/-- A run ends before the first character that does not belong to it. -/
theorem takeWhile_dropWhile_of_head? {p : Char → Bool} {run rest : List Char}
    (hrun : ∀ c ∈ run, p c = true) (hrest : ∀ c ∈ rest.head?, p c = false) :
    (run ++ rest).takeWhile p = run ∧ (run ++ rest).dropWhile p = rest := by
  rw [List.takeWhile_append_of_pos hrun, List.dropWhile_append_of_pos hrun]
  cases rest with
  | nil => simp
  | cons c rest =>
      have hc : ¬ p c = true := by simpa using hrest c rfl
      rw [List.takeWhile_cons_of_neg hc, List.dropWhile_cons_of_neg hc, List.append_nil]
      exact ⟨rfl, rfl⟩

namespace Lexeme.Proper

variable {l : Lexeme}

theorem isWord (h : l.Proper) : Text.IsWord l.text := by
  cases h with
  | epsilon hepsilon =>
      exact ⟨List.cons_ne_nil _ _, by simpa using isBlank_eq_false_of_isEpsilonChar hepsilon⟩
  | terminal hblank hupper hepsilon => exact ⟨List.cons_ne_nil _ _, by simpa using hblank⟩
  | nonTerminal hname =>
      have hchars := isNameChar_of_isNonTerminalName hname
      refine ⟨?_, fun c hc => not_isBlank_of_isNameChar (hchars c hc)⟩
      rintro rfl
      cases hname

theorem ofWord_text (h : l.Proper) : Token.ofWord l.text = l.token := by
  cases h with
  | epsilon hepsilon =>
      rw [Token.ofWord_singleton, if_pos hepsilon]
      intro hupper
      rw [isEpsilonChar_eq_false_of_isUpper hupper] at hepsilon
      cases hepsilon
  | terminal hblank hupper hepsilon =>
      rw [Token.ofWord_singleton (by simp [hupper]), if_neg (by simp [hepsilon])]
  | @nonTerminal name hname =>
      refine Token.ofWord_of_startsUpper ?_
      cases name with
      | nil => cases hname
      | cons c name => exact (Bool.and_eq_true _ _ ▸ hname).1

variable {c : Char} {cs rest : List Char} (h : l.Proper) (hends : l.EndsBefore rest)
  (hcs : c :: cs = l.text ++ rest)
include h hcs

include hends in
/-- A lexeme that begins with an upper-case letter is the longest name there. -/
theorem eq_of_upper (hupper : c.isUpper = true) :
    l = ⟨.nonTerminal (String.ofList (c :: cs.takeWhile isNameChar)),
        c :: cs.takeWhile isNameChar⟩ ∧ rest = cs.dropWhile isNameChar := by
  cases h with
  | epsilon hepsilon =>
      obtain ⟨rfl, -⟩ := List.cons.inj hcs
      rw [isEpsilonChar_eq_false_of_isUpper hupper] at hepsilon
      cases hepsilon
  | terminal hblank hlower hepsilon =>
      obtain ⟨rfl, -⟩ := List.cons.inj hcs
      rw [hupper] at hlower
      cases hlower
  | @nonTerminal name hname =>
      cases name with
      | nil => cases hname
      | cons d name =>
          rw [List.cons_append] at hcs
          obtain ⟨rfl, rfl⟩ := List.cons.inj hcs
          have hchars := (List.forall_mem_cons.mp (isNameChar_of_isNonTerminalName hname)).2
          obtain ⟨htake, hdrop⟩ := takeWhile_dropWhile_of_head? hchars (hends ⟨_, rfl⟩)
          rw [htake, hdrop]
          exact ⟨rfl, rfl⟩

/-- A lexeme that begins with another character is this character alone. -/
theorem eq_of_not_upper (hupper : ¬ c.isUpper = true) :
    l = ⟨if isEpsilonChar c then .epsilon else .terminal (String.ofList [c]), [c]⟩ ∧ rest = cs := by
  cases h with
  | epsilon hepsilon =>
      obtain ⟨rfl, rfl⟩ := List.cons.inj hcs
      exact ⟨by rw [if_pos hepsilon], rfl⟩
  | terminal hblank hlower hepsilon =>
      obtain ⟨rfl, rfl⟩ := List.cons.inj hcs
      exact ⟨by rw [if_neg (by simp [hepsilon])], rfl⟩
  | @nonTerminal name hname =>
      cases name with
      | nil => cases hname
      | cons d name =>
          obtain ⟨rfl, -⟩ := List.cons.inj hcs
          exact absurd (Bool.and_eq_true _ _ ▸ hname).1 hupper

end Lexeme.Proper

namespace Munched

variable {c : Char} {cs rest : List Char} {l : Lexeme} {lexemes : List Lexeme}

/-! ### Building up -/

theorem nil : Munched [] [] where
  proper := by simp
  flatMap_text := rfl
  placed before l after h := by simp at h

theorem blank (hc : Text.isBlank c = true) (h : Munched cs lexemes) :
    Munched (c :: cs) lexemes where
  proper := h.proper
  flatMap_text := by rw [h.flatMap_text, Text.unspaced_cons_blank hc]
  placed before l after hlexemes := by
    obtain ⟨front, rest, rfl, hfront, hrest⟩ := h.placed before l after hlexemes
    exact ⟨c :: front, rest, rfl, by rw [Text.unspaced_cons_blank hc, hfront], hrest⟩

theorem cons (hl : l.Proper) (hends : l.EndsBefore rest) (h : Munched rest lexemes) :
    Munched (l.text ++ rest) (l :: lexemes) where
  proper := List.forall_mem_cons.mpr ⟨hl, h.proper⟩
  flatMap_text := by
    rw [List.flatMap_cons, h.flatMap_text, Text.unspaced_append,
      Text.unspaced_eq_self hl.isWord.not_blank]
  placed before m after hlexemes := by
    cases before with
    | nil =>
        obtain ⟨rfl, rfl⟩ := List.cons.inj hlexemes
        exact ⟨[], rest, rfl, rfl, h.flatMap_text.symm, hends⟩
    | cons first before =>
        rw [List.cons_append] at hlexemes
        obtain ⟨rfl, hrest⟩ := List.cons.inj hlexemes
        obtain ⟨front, rest, rfl, hfront, hrest⟩ := h.placed before m after hrest
        refine ⟨l.text ++ front, rest, (List.append_assoc ..).symm, ?_, hrest⟩
        rw [Text.unspaced_append, Text.unspaced_eq_self hl.isWord.not_blank, hfront,
          List.flatMap_cons]

/-! ### Taking apart -/

theorem eq_nil (h : Munched [] lexemes) : lexemes = [] := by
  cases lexemes with
  | nil => rfl
  | cons l lexemes =>
      have htext := (List.append_eq_nil_iff.mp h.flatMap_text).1
      exact absurd htext (h.proper l List.mem_cons_self).isWord.ne_nil

theorem of_blank (hc : Text.isBlank c = true) (h : Munched (c :: cs) lexemes) :
    Munched cs lexemes where
  proper := h.proper
  flatMap_text := by rw [h.flatMap_text, Text.unspaced_cons_blank hc]
  placed before l after hlexemes := by
    obtain ⟨front, rest, hcs, hfront, hrest⟩ := h.placed before l after hlexemes
    have hl := (h.proper l (by simp [hlexemes])).isWord
    cases front with
    | nil =>
        obtain ⟨d, text, htext⟩ := List.exists_cons_of_ne_nil hl.ne_nil
        rw [htext, List.nil_append, List.cons_append] at hcs
        obtain ⟨rfl, -⟩ := List.cons.inj hcs
        have hblank := hl.not_blank c (htext ▸ List.mem_cons_self)
        rw [hc] at hblank
        cases hblank
    | cons d front =>
        obtain ⟨rfl, rfl⟩ := List.cons.inj hcs
        rw [Text.unspaced_cons_blank hc] at hfront
        exact ⟨front, rest, rfl, hfront, hrest⟩

/-- The first lexeme stands in front, and the others are those of the rest. -/
theorem exists_cons (hc : Text.isBlank c = false) (h : Munched (c :: cs) lexemes) :
    ∃ l rest others, lexemes = l :: others ∧ c :: cs = l.text ++ rest ∧ l.Proper ∧
      l.EndsBefore rest ∧ Munched rest others := by
  cases lexemes with
  | nil =>
      have hempty := h.flatMap_text
      simp [Text.unspaced, hc] at hempty
  | cons l others =>
      have hl := h.proper l List.mem_cons_self
      obtain ⟨front, rest, hcs, hfront, hrest, hends⟩ := h.placed [] l others rfl
      have hnil : front = [] := by
        cases front with
        | nil => rfl
        | cons d front =>
            obtain ⟨rfl, -⟩ := List.cons.inj hcs
            simp [Text.unspaced, hc] at hfront
      rw [hnil, List.nil_append] at hcs
      refine ⟨l, rest, others, rfl, hcs, hl, hends, ?_, hrest.symm, ?_⟩
      · exact fun m hm => h.proper m (List.mem_cons_of_mem _ hm)
      · -- What is in front of a later lexeme begins with the first one.
        intro before m after hothers
        obtain ⟨front, rest', hcs', hfront', hrest', hends'⟩ :=
          h.placed (l :: before) m after (by rw [hothers, List.cons_append])
        obtain ⟨gap, rfl⟩ := Text.exists_append_of_unspaced hl.isWord.not_blank
          (hcs.symm.trans hcs') hfront'
        rw [hcs, List.append_assoc] at hcs'
        rw [Text.unspaced_append, Text.unspaced_eq_self hl.isWord.not_blank,
          List.flatMap_cons] at hfront'
        exact ⟨gap, rest', List.append_cancel_left hcs', List.append_cancel_left hfront', hrest',
          hends'⟩

/-! ### Going over a text -/

theorem upper_proper (hupper : c.isUpper = true) (cs : List Char) :
    (⟨.nonTerminal (String.ofList (c :: cs.takeWhile isNameChar)),
      c :: cs.takeWhile isNameChar⟩ : Lexeme).Proper := by
  refine .nonTerminal ?_
  simp only [isNonTerminalName, hupper, Bool.true_and, List.all_eq_true]
  exact fun d hd => List.mem_takeWhile_imp hd

end Munched

open Munched in
/-- A text has lexemes in compact lexing, and only one sequence of them. Their tokens are its
tokens. -/
theorem exists_munched (cs : List Char) :
    ∃ lexemes, Munched cs lexemes ∧ lexemes.map Lexeme.token = Token.compact cs ∧
      ∀ others, Munched cs others → others = lexemes := by
  fun_induction Token.compact cs with
  | case1 => exact ⟨[], .nil, rfl, fun others h => h.eq_nil⟩
  | case2 c cs hblank ih =>
      obtain ⟨lexemes, h, htokens, hunique⟩ := ih
      exact ⟨lexemes, h.blank hblank, htokens, fun others ho => hunique others (ho.of_blank hblank)⟩
  | case3 c cs hblank hupper ih =>
      obtain ⟨lexemes, h, htokens, hunique⟩ := ih
      have hends : Lexeme.EndsBefore ⟨.nonTerminal (String.ofList (c :: cs.takeWhile isNameChar)),
          c :: cs.takeWhile isNameChar⟩ (cs.dropWhile isNameChar) := by
        intro _ d hd
        have hhead := List.head?_dropWhile_not isNameChar cs
        rwa [Option.mem_def.mp hd] at hhead
      have hmunched := h.cons (upper_proper hupper cs) hends
      rw [List.cons_append, List.takeWhile_append_dropWhile] at hmunched
      refine ⟨_, hmunched, by rw [List.map_cons, htokens], fun others ho => ?_⟩
      obtain ⟨l, rest, others, rfl, hcs, hl, hends, hrest⟩ := ho.exists_cons (by simpa using hblank)
      obtain ⟨rfl, rfl⟩ := hl.eq_of_upper hends hcs hupper
      rw [hunique others hrest]
  | case4 c cs hblank hupper hepsilon ih =>
      obtain ⟨lexemes, h, htokens, hunique⟩ := ih
      refine ⟨_, h.cons (.epsilon hepsilon) (by simp [Lexeme.EndsBefore]), ?_, ?_⟩
      · rw [List.map_cons, htokens]
      · intro others ho
        obtain ⟨l, rest, others, rfl, hcs, hl, -, hrest⟩ := ho.exists_cons (by simpa using hblank)
        obtain ⟨rfl, rfl⟩ := hl.eq_of_not_upper hcs hupper
        rw [hunique others hrest, if_pos hepsilon]
  | case5 c cs hblank hupper hepsilon ih =>
      obtain ⟨lexemes, h, htokens, hunique⟩ := ih
      refine ⟨_, h.cons (.terminal (by simpa using hblank) (by simpa using hupper)
        (by simpa using hepsilon)) (by simp [Lexeme.EndsBefore]), ?_, ?_⟩
      · rw [List.map_cons, htokens]
      · intro others ho
        obtain ⟨l, rest, others, rfl, hcs, hl, -, hrest⟩ := ho.exists_cons (by simpa using hblank)
        obtain ⟨rfl, rfl⟩ := hl.eq_of_not_upper hcs hupper
        rw [hunique others hrest, if_neg hepsilon]

/-! ### Kinds -/

theorem kind_ofWord_eq_nonTerminal_iff {word : List Char} :
    Kind.ofWord word = .nonTerminal ↔ startsUpper word = true := by
  unfold Kind.ofWord
  split <;> simp_all

theorem Token.exists_ofWord_eq_nonTerminal_iff {word : List Char} :
    (∃ name, ofWord word = .nonTerminal name) ↔ Kind.ofWord word = .nonTerminal := by
  rw [kind_ofWord_eq_nonTerminal_iff]
  constructor
  · rintro ⟨name, h⟩
    by_contra hlower
    unfold ofWord at h
    split at h <;> simp_all
  · exact fun hupper => ⟨_, ofWord_of_startsUpper hupper⟩

theorem LexedAs.map_token {lexing : Lexing} {cs : List Char} {lexemes : List Lexeme}
    (h : LexedAs cs lexemes lexing) : lexemes.map Lexeme.token = Token.ofText lexing cs := by
  cases lexing with
  | compact =>
      obtain ⟨own, -, htokens, hunique⟩ := exists_munched cs
      rw [hunique lexemes h, htokens]
      rfl
  | words =>
      rw [show lexemes = _ from h, List.map_map]
      rfl

theorem LexedAs.ofWord_text {lexing : Lexing} {cs : List Char} {lexemes : List Lexeme}
    (h : LexedAs cs lexemes lexing) {l : Lexeme} (hl : l ∈ lexemes) :
    Token.ofWord l.text = l.token := by
  cases lexing with
  | compact => exact (Munched.proper h l hl).ofWord_text
  | words =>
      rw [show lexemes = _ from h] at hl
      obtain ⟨word, -, rfl⟩ := List.mem_map.mp hl
      rfl

/-- In compact lexing a text has one sequence of lexemes, whose tokens are those of the text. In
both ways of lexing a lexeme is `ε` or has its piece for a name, and it is a non-terminal exactly
when the piece is spelled like one. Then the piece is no way to write `ε`. -/
theorem ofText_lexemes (cs : List Char) :
    (∃ lexemes, Munched cs lexemes ∧ lexemes.map Lexeme.token = Token.ofText .compact cs ∧
      ∀ others, Munched cs others → others = lexemes) ∧
    ∀ lexing lexemes, LexedAs cs lexemes lexing →
      lexemes.map Lexeme.token = Token.ofText lexing cs ∧
      ∀ l ∈ lexemes, (l.token = .epsilon ∨ l.token.symbol.name.toList = l.text) ∧
        ((∃ name, l.token = .nonTerminal name) ↔ Kind.ofWord l.text = .nonTerminal) ∧
        ((∃ name, l.token = .nonTerminal name) → isEpsilonWord l.text = false) := by
  refine ⟨exists_munched cs, fun lexing lexemes h => ⟨h.map_token, fun l hl => ?_⟩⟩
  rw [← h.ofWord_text hl, Token.exists_ofWord_eq_nonTerminal_iff]
  refine ⟨Token.name_symbol_ofWord l.text, .rfl, fun hkind => ?_⟩
  exact Token.not_isEpsilonWord_of_startsUpper (kind_ofWord_eq_nonTerminal_iff.mp hkind)

/-- A name behind a terminal and in front of an `ε`, with a second name behind a blank. -/
theorem ofText_lexemes_names :
    ∃ lexemes, LexedAs "aB'1ϵ C_+".toList lexemes .compact ∧
      lexemes.map Lexeme.token =
        [.terminal "a", .nonTerminal "B'1", .epsilon, .nonTerminal "C_", .terminal "+"] ∧
      ∀ l ∈ lexemes, (∃ name, l.token = .nonTerminal name) → isEpsilonWord l.text = false := by
  obtain ⟨⟨lexemes, h, htokens, -⟩, hlexed⟩ := ofText_lexemes "aB'1ϵ C_+".toList
  obtain ⟨-, hkinds⟩ := hlexed .compact lexemes h
  exact ⟨lexemes, h, htokens.trans (by cbv), fun l hl => (hkinds l hl).2.2⟩

end Predictive
