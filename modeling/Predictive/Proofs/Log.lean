import Mathlib.Data.List.Induction
import Predictive.Log.Filter
import Predictive.Proofs.Pattern.Word

/-!
# What a filter shows

The directives of a filter are for different paths: the last one that is written for a path is the
one that counts (`mem_collect_iff`). Of those whose path begins the path of an event the last of
the longest ones decides (`deciding?_eq_some_iff`), so a filter shows an event exactly if that
directive admits its level and the pattern occurs in its message (`shows_iff`). A plain word behind
a slash leaves the events whose message has it (`shows_of_plain`).
-/

namespace Predictive.Log

theorem Level.rank_pos (level : Level) : 0 < level.rank := by
  cases level <;> decide

namespace Filter

variable {d e : Directive} {all directives : List Directive} {path : List Char}

/-! ### The directives of a filter -/

def Distinct (all : List Directive) : Prop := (all.map Directive.path?).Nodup

theorem mem_insert (h : Distinct all) :
    e ∈ insert d all ↔ e = d ∨ e ∈ all ∧ e.path? ≠ d.path? := by
  induction all with
  | nil => simp [insert]
  | cons x all ih =>
      rw [Distinct, List.map_cons, List.nodup_cons, List.mem_map] at h
      obtain ⟨hx, hall⟩ := h
      rw [insert]
      split
      · next hsame => grind
      · next hne =>
          rw [List.mem_cons, ih hall]
          grind

theorem Distinct.insert (h : Distinct all) (d : Directive) : Distinct (insert d all) := by
  induction all with
  | nil => simp [Distinct, Filter.insert]
  | cons x all ih =>
      have hall : Distinct all := (List.nodup_cons.mp h).2
      rw [Filter.insert]
      split
      · next hsame =>
          rw [Distinct, List.map_cons, ← hsame, ← List.map_cons]
          exact h
      · next hne =>
          rw [Distinct, List.map_cons, List.nodup_cons, List.mem_map]
          refine ⟨?_, ih hall⟩
          rintro ⟨e, he, heq⟩
          rcases (mem_insert hall).mp he with rfl | ⟨he, -⟩
          · exact hne heq.symm
          · exact (List.nodup_cons.mp h).1 (List.mem_map.mpr ⟨e, he, heq⟩)

theorem collect_append_singleton (directives : List Directive) (d : Directive) :
    ofString.collect (directives ++ [d]) = insert d (ofString.collect directives) := by
  rw [ofString.collect, List.foldl_append]
  rfl

theorem distinct_collect (directives : List Directive) :
    Distinct (ofString.collect directives) := by
  induction directives using List.reverseRecOn with
  | nil => exact List.nodup_nil
  | append_singleton directives d ih =>
      rw [collect_append_singleton]
      exact ih.insert d

/-- The directives that count are those with none for the same path behind them. -/
theorem mem_collect_iff : d ∈ ofString.collect directives ↔
    ∃ before behind, directives = before ++ d :: behind ∧ ∀ e ∈ behind, e.path? ≠ d.path? := by
  induction directives using List.reverseRecOn with
  | nil => simp [ofString.collect]
  | append_singleton directives x ih =>
      rw [collect_append_singleton, mem_insert (distinct_collect directives), ih]
      constructor
      · rintro (rfl | ⟨⟨before, behind, rfl, hbehind⟩, hne⟩)
        · exact ⟨directives, [], rfl, List.forall_mem_nil _⟩
        · refine ⟨before, behind ++ [x], by simp, ?_⟩
          intro e he
          rcases List.mem_append.mp he with he | he
          · exact hbehind e he
          · exact List.mem_singleton.mp he ▸ hne.symm
      · rintro ⟨before, behind, heq, hbehind⟩
        induction behind using List.reverseRecOn with
        | nil => exact .inl (List.append_singleton_inj.mp heq).2.symm
        | append_singleton behind y _ =>
            rw [← List.cons_append, ← List.append_assoc] at heq
            obtain ⟨rfl, rfl⟩ := List.append_singleton_inj.mp heq
            refine .inr ⟨⟨before, behind, rfl, fun e he => ?_⟩, ?_⟩
            · exact hbehind e (List.mem_append_left _ he)
            · exact (hbehind x (List.mem_append_right _ List.mem_cons_self)).symm

/-! ### The directive that decides -/

/-- The last of the directives with the longest path that begins a given one. -/
def Decides (path : List Char) (all : List Directive) (d : Directive) : Prop :=
  ∃ before behind, all = before ++ d :: behind ∧ d.path <+: path ∧
    (∀ e ∈ before, e.path <+: path → e.path.length ≤ d.path.length) ∧
    ∀ e ∈ behind, e.path <+: path → e.path.length < d.path.length

theorem deciding?_append_singleton (path : List Char) (all : List Directive) (d : Directive) :
    deciding? path (all ++ [d]) =
      if d.path <+: path ∧ ∀ b, deciding? path all = some b → b.path.length ≤ d.path.length then
        some d
      else deciding? path all := by
  unfold deciding?
  rw [List.foldl_append]
  generalize all.foldl _ none = best
  simp only [List.foldl_cons, List.foldl_nil, ← List.isPrefixOf_iff_prefix]
  cases d.path.isPrefixOf path <;> cases best <;> simp

theorem Decides.begins (h : Decides path all d) : d.path <+: path := by
  obtain ⟨_, _, _, h, _⟩ := h
  exact h

theorem Decides.mem (h : Decides path all d) : d ∈ all := by
  obtain ⟨before, behind, rfl, -⟩ := h
  exact List.mem_append_right _ List.mem_cons_self

/-- No directive that matches is longer than the one that decides. -/
theorem Decides.length_le (h : Decides path all d) (he : e ∈ all) (hbegins : e.path <+: path) :
    e.path.length ≤ d.path.length := by
  obtain ⟨before, behind, rfl, -, hbefore, hbehind⟩ := h
  rcases List.mem_append.mp he with he | he
  · exact hbefore e he hbegins
  · rcases List.mem_cons.mp he with rfl | he
    · exact Nat.le_refl _
    · exact Nat.le_of_lt (hbehind e he hbegins)

theorem deciding?_spec (path : List Char) (all : List Directive) :
    (deciding? path all = none ∧ ∀ e ∈ all, ¬e.path <+: path) ∨
      ∃ d, deciding? path all = some d ∧ Decides path all d := by
  induction all using List.reverseRecOn with
  | nil => exact .inl ⟨rfl, List.forall_mem_nil _⟩
  | append_singleton all x ih =>
      rw [deciding?_append_singleton]
      rcases ih with ⟨hnone, hall⟩ | ⟨b, hsome, hb⟩
      · rw [hnone]
        by_cases hx : x.path <+: path
        · refine .inr ⟨x, by simp [hx], all, [], rfl, hx, ?_, List.forall_mem_nil _⟩
          exact fun e he hbegins => absurd hbegins (hall e he)
        · refine .inl ⟨by simp [hx], ?_⟩
          simpa [or_imp, forall_and, hx] using hall
      · rw [hsome]
        by_cases hx : x.path <+: path ∧ b.path.length ≤ x.path.length
        · refine .inr ⟨x, by simp [hx], all, [], rfl, hx.1, ?_, List.forall_mem_nil _⟩
          exact fun e he hbegins => Nat.le_trans (hb.length_le he hbegins) hx.2
        · refine .inr ⟨b, if_neg fun h => hx ⟨h.1, h.2 b rfl⟩, ?_⟩
          obtain ⟨before, behind, rfl, hbegins, hbefore, hbehind⟩ := hb
          refine ⟨before, behind ++ [x], by simp, hbegins, hbefore, fun e he hbegins => ?_⟩
          rcases List.mem_append.mp he with he | he
          · exact hbehind e he hbegins
          · obtain rfl := List.mem_singleton.mp he
            exact Nat.lt_of_not_le fun hle => hx ⟨hbegins, hle⟩

theorem Decides.eq (h : Decides path all d) (h' : Decides path all e) : d = e := by
  obtain ⟨before, behind, rfl, hd, hbefore, hbehind⟩ := h
  obtain ⟨before', behind', heq, he, hbefore', hbehind'⟩ := h'
  rcases List.append_eq_append_iff.mp heq with ⟨between, rfl, hrest⟩ | ⟨between, rfl, hrest⟩
  · rcases List.cons_eq_append_iff.mp hrest with ⟨rfl, hcons⟩ | ⟨between, rfl, rfl⟩
    · exact (List.cons.inj hcons).1.symm
    · -- Each of the two would come behind the other.
      have hle := hbefore' d (by simp) hd
      have hlt := hbehind e (by simp) he
      omega
  · rcases List.cons_eq_append_iff.mp hrest with ⟨rfl, hcons⟩ | ⟨between, rfl, rfl⟩
    · exact (List.cons.inj hcons).1
    · have hle := hbefore e (by simp) he
      have hlt := hbehind' d (by simp) hd
      omega

theorem deciding?_eq_some_iff : deciding? path all = some d ↔ Decides path all d := by
  rcases deciding?_spec path all with ⟨hnone, hall⟩ | ⟨b, hsome, hb⟩
  · rw [hnone]
    refine ⟨fun h => (nomatch h), fun h => ?_⟩
    exact absurd h.begins (hall d h.mem)
  · rw [hsome]
    constructor
    · rintro ⟨⟩
      exact hb
    · intro h
      rw [hb.eq h]

/-! ### What is shown -/

/-- With directives, the one that decides about the path of an event admits its level. -/
theorem shows_iff {filter : Filter} (h : filter.directives ≠ []) {e : Event} :
    filter.shows e = true ↔
      (∃ d, Decides e.source.path.toList filter.directives d ∧ e.level.rank ≤ d.rank) ∧
        ∀ p, filter.pattern? = some p → p.occursIn e.message.toList = true := by
  have hdirectives : filter.directives.isEmpty = false := by simpa using h
  rw [shows, hdirectives, if_neg Bool.false_ne_true, Bool.and_eq_true, decide_eq_true_eq,
    Option.all_eq_true]
  refine and_congr_left fun _ => ?_
  rcases deciding?_spec e.source.path.toList filter.directives with ⟨hnone, hall⟩ | ⟨b, hsome, hb⟩
  · rw [hnone]
    constructor
    · intro hle
      exact absurd hle (Nat.not_le_of_lt e.level.rank_pos)
    · rintro ⟨d, hd, -⟩
      exact absurd hd.begins (hall d hd.mem)
  · rw [hsome]
    constructor
    · intro hle
      exact ⟨b, hb, hle⟩
    · rintro ⟨d, hd, hle⟩
      rwa [hb.eq hd]

/-- Behind a slash, a word of characters that stand for themselves leaves the events whose message
has this word. -/
theorem shows_of_plain {text word : List Char} (htext : '/' ∉ text) (hslash : '/' ∉ word)
    (hword : ∀ c ∈ word, Pattern.isPlain c = true) (hsmall : (Pattern.ofWord word).isSmall = true)
    (e : Event) :
    (ofString (String.ofList (text ++ '/' :: word))).1.shows e = true ↔
      (ofString (String.ofList text)).1.shows e = true ∧ word <:+: e.message.toList := by
  have hone : ∀ {chars : List Char}, '/' ∉ chars → chars.splitOn '/' = [chars] := fun h =>
    List.splitOnP_eq_singleton fun c hc => beq_eq_false_iff_ne.mpr (ne_of_mem_of_not_mem hc h)
  have hboth : (text ++ '/' :: word).splitOn '/' = [text, word] := by
    have hsplit := List.splitOnP_append_cons text word (p := (· == '/')) (beq_self_eq_true '/')
    exact hsplit.trans (congrArg₂ (· ++ ·) (hone htext) (hone hslash))
  have hpattern : readPattern word = (some (.ofWord word), []) := by
    rw [readPattern, Pattern.ofText_of_plain hword, if_pos hsmall]
  simp only [ofString, String.toList_ofList, hboth, hone htext, hpattern, shows, Bool.and_eq_true,
    Option.all_some, Option.all_none, Pattern.occursIn_ofWord, and_true]

end Filter

end Predictive.Log
