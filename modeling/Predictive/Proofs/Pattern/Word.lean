import Mathlib.Data.List.Forall2
import Predictive.Pattern.Meaning
import Predictive.Proofs.Pattern.Pieces

/-!
# Words as patterns

Most characters stand for themselves in a written pattern. A text of such characters is read as the
pattern of these characters one after another (`ofText_of_plain`), which occurs in a text exactly
if the word does (`occursIn_ofWord`). Only the size of its machine can stand in the way.
-/

namespace Predictive.Pattern

def isPlain (c : Char) : Bool :=
  !(['\\', '.', '^', '$', '(', ')', '|', '[', '\x7b', '?', '*', '+'] : List Char).contains c

def ofWord : List Char → Pattern
  | [] => empty
  | [c] => one (.single c)
  | c :: d :: rest => seq (one (.single c)) (ofWord (d :: rest))

/-! ### Pieces -/

theorem describes_single {text : List Char} {c : Char} {i j : ℕ} :
    (one (.single c)).Describes text i j ↔ j = i + 1 ∧ text[i]? = some c := by
  simp [Describes, CharSet.has_single]

theorem cons_prefix_drop_iff {text word : List Char} {c : Char} {i : ℕ} :
    c :: word <+: text.drop i ↔ text[i]? = some c ∧ word <+: text.drop (i + 1) := by
  rw [← List.head?_drop, ← List.tail_drop]
  cases text.drop i with
  | nil => simp
  | cons d rest => simp [List.cons_prefix_cons, eq_comm]

theorem describes_ofWord {text word : List Char} {i j : ℕ} :
    (ofWord word).Describes text i j ↔ j = i + word.length ∧ word <+: text.drop i := by
  fun_induction ofWord word generalizing i with
  | case1 => simp [Describes, eq_comm]
  | case2 c => simp [describes_single, cons_prefix_drop_iff]
  | case3 c d rest ih =>
      rw [cons_prefix_drop_iff]
      simp only [Describes.eq_4, describes_single, ih, List.length_cons]
      constructor
      · rintro ⟨_, ⟨rfl, hc⟩, rfl, hrest⟩
        exact ⟨by omega, hc, hrest⟩
      · rintro ⟨rfl, hc, hrest⟩
        exact ⟨i + 1, ⟨rfl, hc⟩, by omega, hrest⟩

/-- A word occurs as a pattern exactly if it is part of a text. -/
theorem occursIn_ofWord {word text : List Char} :
    (ofWord word).occursIn text = true ↔ word <:+: text := by
  rw [occursIn_iff]
  simp only [describes_ofWord]
  constructor
  · rintro ⟨i, -, j, -, hword⟩
    exact hword.isInfix.trans (List.drop_suffix i text).isInfix
  · rintro ⟨before, behind, rfl⟩
    exact ⟨before.length, by simp, _, rfl, by simp⟩

/-! ### Reading -/

def Tree.IsChar (tree : Tree) (c : Char) : Prop :=
  ∃ span, tree = .atom (.literal ⟨c, false, span⟩)

inductive Tree.Spells : Tree → List Char → Prop
  | nil : Spells .empty []
  | single {tree : Tree} {c : Char} (h : tree.IsChar c) : Spells tree [c]
  | cons {a b : Tree} {c d : Char} {rest : List Char} (ha : a.IsChar c)
      (hb : Spells b (d :: rest)) :
      Spells (.seq a b) (c :: d :: rest)

namespace Tree.Spells

variable {tree : Tree} {word : List Char}

theorem pattern_eq (h : tree.Spells word) : tree.pattern {} = .ok (ofWord word, {}) := by
  induction h with
  | nil => rfl
  | single h =>
      obtain ⟨span, rfl⟩ := h
      rfl
  | @cons a b c d rest ha hb ih =>
      obtain ⟨span, rfl⟩ := ha
      have hseq : pattern {} (.seq (.atom (.literal ⟨c, false, span⟩)) b) =
          (pattern {} b).bind fun r => .ok (.seq (.one (.single c)) r.1, r.2) := rfl
      rw [hseq, ih]
      rfl

theorem tooDeep?_eq_none (h : tree.Spells word) (room : ℕ) : tree.tooDeep? room = none := by
  induction h with
  | nil => rfl
  | single h =>
      obtain ⟨span, rfl⟩ := h
      rfl
  | cons ha hb ih =>
      obtain ⟨span, rfl⟩ := ha
      exact ih

theorem seq {a : Tree} {c : Char} (ha : a.IsChar c) :
    tree.Spells word →
      Spells (match tree with | .empty => a | _ => .seq a tree) (c :: word) := by
  intro h
  cases h with
  | nil => exact .single ha
  | single h =>
      obtain ⟨span, rfl⟩ := h
      exact .cons ha (.single ⟨span, rfl⟩)
  | cons ha' hb => exact .cons ha (.cons ha' hb)

theorem foldl_ofReversed {trees : List Tree} {chars : List Char}
    (htrees : List.Forall₂ Tree.IsChar trees chars) (h : tree.Spells word) :
    Spells (trees.foldl (fun behind tree =>
      match behind with
      | .empty => tree
      | _ => .seq tree behind) tree) (chars.reverse ++ word) := by
  induction htrees generalizing tree word with
  | nil => exact h
  | cons ha _ ih =>
      rw [List.reverse_cons, List.append_assoc]
      exact ih (seq ha h)

end Tree.Spells

namespace Reader

theorem bind_of_eq_ok {α β : Type} {x : Reader α} {f : α → Reader β} {a : α} {scan scan' : Scan}
    (h : x scan = .ok (a, scan')) : (x >>= f) scan = f a scan' := by
  change (x scan).bind (fun r => f r.1 r.2) = f a scan'
  rw [h]
  rfl

theorem atom_of_isPlain {c : Char} (hc : isPlain c = true) (rest : List Char) (spot : Spot)
    (names : List (List Char × Span)) :
    atom ⟨c :: rest, spot, false, names⟩ =
      .ok (.literal ⟨c, false, ⟨spot, spot.after c⟩⟩, ⟨rest, spot.after c, false, names⟩) := by
  simp only [isPlain, List.contains_cons, List.contains_nil, Bool.or_false, Bool.not_eq_true',
    Bool.or_eq_false_iff, beq_eq_false_iff_ne] at hc
  obtain ⟨hbackslash, hdot, hcaret, hdollar, -⟩ := hc
  have hspan : spanAhead ⟨c :: rest, spot, false, names⟩ =
      .ok (⟨spot, spot.after c⟩, ⟨c :: rest, spot, false, names⟩) := rfl
  have hpeek : peek? ⟨c :: rest, spot, false, names⟩ =
      .ok (some c, ⟨c :: rest, spot, false, names⟩) := rfl
  rw [atom, bind_of_eq_ok hspan, bind_of_eq_ok hpeek]
  -- The inequalities rule all signs out.
  simp only
  rfl

theorem alternatives_of_isPlain {c : Char} (hc : isPlain c = true) (n : ℕ) (content : Content)
    (rest : List Char) (here : Spot) (names : List (List Char × Span)) :
    alternatives none (n + 1) content ⟨c :: rest, here, false, names⟩ =
      alternatives none n
        (content.add (.atom (.literal ⟨c, false, ⟨here, here.after c⟩⟩)) here)
        ⟨rest, here.after c, false, names⟩ := by
  have hatom := atom_of_isPlain hc rest here names
  have hsign : signCounts? c = none := by
    unfold signCounts?
    split <;> simp_all [isPlain]
  simp only [isPlain, List.contains_cons, List.contains_nil, Bool.or_false, Bool.not_eq_true',
    Bool.or_eq_false_iff, beq_eq_false_iff_ne] at hc
  obtain ⟨-, -, -, -, hopening, hclosing, hbar, hbracket, hbrace, -⟩ := hc
  have hblanks : skipBlanks ⟨c :: rest, here, false, names⟩ =
      .ok ((), ⟨c :: rest, here, false, names⟩) := rfl
  have hspot : spot ⟨c :: rest, here, false, names⟩ =
      .ok (here, ⟨c :: rest, here, false, names⟩) := rfl
  have hpeek : peek? ⟨c :: rest, here, false, names⟩ =
      .ok (some c, ⟨c :: rest, here, false, names⟩) := rfl
  rw [alternatives, bind_of_eq_ok hblanks, bind_of_eq_ok hspot, bind_of_eq_ok hpeek]
  simp only
  rw [if_neg (by simp [hbrace, hsign]), bind_of_eq_ok hatom]

/-- The characters are read one by one, the last one first. -/
theorem exists_alternatives_of_plain {word : List Char} (hword : ∀ c ∈ word, isPlain c = true)
    {n : ℕ} (hn : word.length < n) (content : Content) (here : Spot)
    (names : List (List Char × Span)) :
    ∃ items last scan, List.Forall₂ Tree.IsChar (items.map Item.tree) word.reverse ∧
      alternatives none n content ⟨word, here, false, names⟩ =
        .ok (Content.tree { content with items := items ++ content.items } last, scan) := by
  induction word generalizing n content here with
  | nil =>
      obtain _ | n := n
      · cases hn
      · exact ⟨[], here, ⟨[], here, false, names⟩, .nil, rfl⟩
  | cons c word ih =>
      obtain _ | n := n
      · cases hn
      · rw [alternatives_of_isPlain (hword c List.mem_cons_self)]
        obtain ⟨items, last, scan, hitems, hread⟩ :=
          ih (fun d hd => hword d (List.mem_cons_of_mem _ hd)) (Nat.lt_of_succ_lt_succ hn)
            (content.add (.atom (.literal ⟨c, false, ⟨here, here.after c⟩⟩)) here) (here.after c)
        refine ⟨items ++ [⟨.atom (.literal ⟨c, false, ⟨here, here.after c⟩⟩), here⟩], last, scan,
          ?_, ?_⟩
        · rw [List.map_append, List.reverse_cons]
          exact List.rel_append hitems (.cons ⟨_, rfl⟩ .nil)
        · rw [hread, List.append_assoc]
          rfl

end Reader

theorem exists_tree_of_plain {word : List Char} (hword : ∀ c ∈ word, isPlain c = true) :
    ∃ tree, Tree.ofText word = .ok tree ∧ tree.checked = .ok tree ∧
      tree.pattern {} = .ok (ofWord word, {}) := by
  obtain ⟨items, last, scan, hitems, hread⟩ := Reader.exists_alternatives_of_plain hword
    (Nat.lt_succ_self _) { first := ⟨1, 1⟩ } ⟨1, 1⟩ []
  have hspells : (Tree.ofReversed (items.map Item.tree)).Spells word := by
    have h := Tree.Spells.foldl_ofReversed hitems .nil
    rwa [List.reverse_reverse, List.append_nil] at h
  have htree : Tree.ofText word = .ok (Content.tree { first := ⟨1, 1⟩, items } last) := by
    rw [List.append_nil] at hread
    simp only [Tree.ofText, StateT.run', hread]
    rfl
  refine ⟨_, htree, ?_⟩
  simp only [Content.tree, Content.alternative, List.isEmpty_nil, if_true]
  split
  · refine ⟨?_, hspells.pattern_eq⟩
    rw [Tree.checked, hspells.tooDeep?_eq_none]
  · refine ⟨?_, hspells.pattern_eq⟩
    -- One level of nesting is far from the limit.
    rw [Tree.checked, depthLimit, Tree.tooDeep?, hspells.tooDeep?_eq_none]

/-- A text of characters that stand for themselves is read as this word. -/
theorem ofText_of_plain {word : List Char} (hword : ∀ c ∈ word, isPlain c = true) :
    ofText word = if (ofWord word).isSmall then .ok (ofWord word) else .error .tooLarge := by
  obtain ⟨tree, hread, hchecked, hpattern⟩ := exists_tree_of_plain hword
  simp only [ofText, hread, bind, Except.bind, hchecked, hpattern, pure, Except.pure]

end Predictive.Pattern
