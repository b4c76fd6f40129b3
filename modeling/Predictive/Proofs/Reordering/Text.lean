import Mathlib.Data.List.SplitBy
import Predictive.Proofs.Reading.Faultless
import Predictive.Proofs.Reordering.Analysis

/-!
# Texts with their blocks in another order

A block is a line with an arrow together with the lines that continue it. A text without fault
consists of blocks, and what a block says does not depend on the lines in front of it
(`contents_eq_flatMap`).

`SameBlocks` says that two texts have the same blocks, perhaps in another order, as long as the
blocks of each left side keep theirs and the first blocks are for the same left side, which is the
start symbol. Such texts are read as reordered grammars (`SameBlocks.reordered_load`), so the
analyses of both come to the same (`Analysis.run_sameOutcome`).
-/

namespace Predictive

instance Text.decidableNoArrow (cs : List Char) : Decidable (Text.NoArrow cs) :=
  inferInstanceAs (Decidable (¬ _ <:+: _))

namespace Reading

/-- A line with an arrow and the lines that continue it. -/
abbrev Block := List (List Char)

/-- The blocks of a text. Every line with an arrow begins one, and blank lines are in none. -/
def blocks (text : String) : List Block :=
  ((Text.lines text.toList).filter fun line => !line.all Text.isBlank).splitBy
    fun _ line => Text.NoArrow line

def Block.left (block : Block) : Symbol :=
  .nonTerminal (String.ofList (Text.trim ((Text.splitArrow (block.headD [])).headD [])))

/-- The same blocks. Blocks with the same left side come in the same order, and the first block has
the same left side. -/
structure SameBlocks (text text' : String) : Prop where
  perm : (blocks text).Perm (blocks text')
  inOrder : ∀ left, (blocks text).filter (·.left = left) = (blocks text').filter (·.left = left)
  first : (blocks text).head?.map Block.left = (blocks text').head?.map Block.left

theorem sameBlocks_iff {text text' : String} :
    SameBlocks text text' ↔ (blocks text).Perm (blocks text') ∧
      (∀ block ∈ blocks text, (blocks text).filter (·.left = block.left) =
        (blocks text').filter (·.left = block.left)) ∧
      (blocks text).head?.map Block.left = (blocks text').head?.map Block.left := by
  refine ⟨fun h => ⟨h.perm, fun block _ => h.inOrder block.left, h.first⟩, ?_⟩
  rintro ⟨hperm, hinOrder, hfirst⟩
  refine ⟨hperm, fun left => ?_, hfirst⟩
  by_cases hleft : ∃ block ∈ blocks text, block.left = left
  · obtain ⟨block, hblock, rfl⟩ := hleft
    exact hinOrder block hblock
  · have hne : ∀ block ∈ blocks text, ¬ block.left = left := fun block hblock heq =>
      hleft ⟨block, hblock, heq⟩
    rw [List.filter_eq_nil_iff.mpr fun block hblock => by simpa using hne block hblock,
      List.filter_eq_nil_iff.mpr fun block hblock => by
        simpa using hne block (hperm.mem_iff.mpr hblock)]

instance (text text' : String) : Decidable (SameBlocks text text') :=
  decidable_of_iff _ sameBlocks_iff.symm

def contentsOf (previous : Option Symbol) :
    List (List Char) → Option (List (Symbol × List Char))
  | [] => some []
  | line :: rest =>
    match readLine previous line with
    | .ok content => (contentsOf (some content.1) rest).map (content :: ·)
    | .error _ => none

def Block.contents (block : Block) : List (Symbol × List Char) :=
  (contentsOf none block).getD []

/-! ### Lines -/

theorem contentsOf_filter {previous : Option Symbol} {number : ℕ} {lines : List (List Char)}
    (h : faultsOf (readLines previous number lines) = []) :
    contentsOf previous (lines.filter fun line => !line.all Text.isBlank) =
      some ((rulesOf (readLines previous number lines)).map RuleLine.content) := by
  induction lines generalizing previous number with
  | nil => rfl
  | cons line lines ih =>
      rw [readLines] at h ⊢
      by_cases hblank : line.all Text.isBlank = true
      · rw [if_pos hblank] at h ⊢
        rw [List.filter_cons_of_neg (by simp [hblank])]
        exact ih h
      · rw [if_neg hblank] at h ⊢
        rw [List.filter_cons_of_pos (by simpa using hblank), contentsOf]
        cases hline : readLine previous line with
        | ok content =>
            rw [hline] at h
            simp only [ih h]
            rfl
        | error fault =>
            rw [hline] at h
            cases h

theorem readLine_of_arrow {line : List Char} (h : ¬ Text.NoArrow line) (previous : Option Symbol) :
    readLine previous line = readLine none line := by
  unfold readLine
  match hsplit : Text.splitArrow line with
  | [] => rfl
  | [text] => exact absurd (Text.splitArrow_eq_singleton_iff.mp hsplit).1 h
  | [_, _] => rfl
  | _ :: _ :: _ :: _ => rfl

theorem contentsOf_cons_of_arrow {line : List Char} (h : ¬ Text.NoArrow line)
    (previous : Option Symbol) (rest : List (List Char)) :
    contentsOf previous (line :: rest) = contentsOf none (line :: rest) := by
  rw [contentsOf, contentsOf, readLine_of_arrow h]

theorem contentsOf_append {previous : Option Symbol} {lines rest : List (List Char)}
    (hrest : ∀ line ∈ rest.head?, ¬ Text.NoArrow line) :
    contentsOf previous (lines ++ rest) =
      (contentsOf previous lines).bind fun contents =>
        (contentsOf none rest).map (contents ++ ·) := by
  induction lines generalizing previous with
  | nil =>
      cases rest with
      | nil => rfl
      | cons line rest =>
          rw [List.nil_append, contentsOf_cons_of_arrow (hrest line rfl)]
          simp [contentsOf]
  | cons line lines ih =>
      rw [List.cons_append, contentsOf, contentsOf]
      cases readLine previous line with
      | error fault => rfl
      | ok content =>
          simp only [ih]
          cases contentsOf (some content.1) lines with
          | none => rfl
          | some contents => cases contentsOf none rest <;> rfl

theorem noArrow_ne_oneArrow {line left right : List Char} (h : Text.OneArrow line left right) :
    ¬ Text.NoArrow line := by
  intro hno
  have hsplit := Text.splitArrow_eq_pair_iff.mpr h
  rw [Text.splitArrow_of_noArrow hno] at hsplit
  simp at hsplit

/-- Lines that continue a line have its left side. -/
theorem eq_some_of_mem_contentsOf {previous : Option Symbol} {lines : List (List Char)}
    {contents : List (Symbol × List Char)} (hlines : ∀ line ∈ lines, Text.NoArrow line)
    (h : contentsOf previous lines = some contents) :
    ∀ content ∈ contents, previous = some content.1 := by
  induction lines generalizing previous contents with
  | nil =>
      cases h
      simp
  | cons line lines ih =>
      obtain ⟨hline, hrest⟩ := List.forall_mem_cons.mp hlines
      rw [contentsOf] at h
      cases hread : readLine previous line with
      | error fault => simp [hread] at h
      | ok content =>
          simp only [hread, Option.map_eq_some_iff] at h
          obtain ⟨others, hothers, rfl⟩ := h
          have hleft : previous = some content.1 := by
            rcases readLine_eq_ok_iff.mp hread with ⟨l, r, harrow, -⟩ | ⟨-, rest, -, hleft, -⟩
            · exact absurd hline (noArrow_ne_oneArrow harrow)
            · exact hleft
          refine List.forall_mem_cons.mpr ⟨hleft, fun other hother => ?_⟩
          rw [hleft, ih hrest hothers other hother]

/-! ### Blocks -/

structure Block.Proper (block : Block) : Prop where
  head : ∃ line ∈ block.head?, ¬ Text.NoArrow line
  tail : ∀ line ∈ block.tail, Text.NoArrow line

theorem forall_mem_of_isChain_cons {α : Type} {R : α → α → Prop} {P : α → Prop}
    (hR : ∀ x y, R x y → P y) {x : α} {l : List α} (h : (x :: l).IsChain R) : ∀ y ∈ l, P y := by
  induction l generalizing x with
  | nil => simp
  | cons y l ih =>
      obtain ⟨hxy, hrest⟩ := List.isChain_cons_cons.mp h
      exact List.forall_mem_cons.mpr ⟨hR x y hxy, ih hrest⟩

/-- If the first line has an arrow, every line without one continues some line. -/
theorem proper_of_mem_splitBy {lines : List (List Char)}
    (h : ∀ line ∈ lines.head?, ¬ Text.NoArrow line) :
    ∀ block ∈ lines.splitBy fun _ line => Text.NoArrow line, Block.Proper block := by
  have htail : ∀ block ∈ lines.splitBy fun _ line => Text.NoArrow line,
      ∀ line ∈ block.tail, Text.NoArrow line := by
    intro block hblock
    have hchain := List.isChain_of_mem_splitBy hblock
    cases block with
    | nil => simp
    | cons head tail => exact forall_mem_of_isChain_cons (fun _ _ h => by simpa using h) hchain
  have hhead : ∀ block ∈ lines.splitBy fun _ line => Text.NoArrow line,
      ∃ line ∈ block.head?, ¬ Text.NoArrow line := by
    have hchain := List.isChain_getLast_head_splitBy (fun _ line => Text.NoArrow line) lines
    have hflatten := List.flatten_splitBy (fun _ line => Text.NoArrow line) lines
    have hne := List.nil_notMem_splitBy (fun _ line => Text.NoArrow line) lines
    cases hblocks : lines.splitBy fun _ line => Text.NoArrow line with
    | nil => simp
    | cons first rest =>
        rw [hblocks] at hchain hflatten hne
        refine List.forall_mem_cons.mpr ⟨?_, forall_mem_of_isChain_cons ?_ hchain⟩
        · cases first with
          | nil => simp at hne
          | cons line first => exact ⟨line, rfl, h line (by rw [← hflatten]; rfl)⟩
        · rintro block block' ⟨_, hblock', hr⟩
          exact ⟨_, List.head?_eq_some_head hblock', by simpa using hr⟩
  exact fun block hblock => ⟨hhead block hblock, htail block hblock⟩

theorem Block.Proper.contents {block : Block} (h : block.Proper)
    {contents : List (Symbol × List Char)} (hcontents : contentsOf none block = some contents) :
    contents ≠ [] ∧ ∀ content ∈ contents, content.1 = block.left := by
  obtain ⟨line, hline, harrow⟩ := h.head
  cases block with
  | nil => cases hline
  | cons head tail =>
      cases hline
      rw [contentsOf] at hcontents
      cases hread : readLine none line with
      | error fault => simp [hread] at hcontents
      | ok content =>
          simp only [hread, Option.map_eq_some_iff] at hcontents
          obtain ⟨others, hothers, rfl⟩ := hcontents
          have hleft : content.1 = Block.left (line :: tail) := by
            rcases readLine_eq_ok_iff.mp hread with ⟨l, r, hone, -, hleft, -⟩ | ⟨-, _, -, hnone, -⟩
            · rw [hleft, Block.left, List.headD_cons, Text.splitArrow_eq_pair_iff.mpr hone]
              rfl
            · cases hnone
          refine ⟨List.cons_ne_nil _ _, List.forall_mem_cons.mpr ⟨hleft, fun other hother => ?_⟩⟩
          have heq := eq_some_of_mem_contentsOf h.tail hothers other hother
          rw [← Option.some.inj heq, hleft]

/-- What lines in blocks say is what the blocks say, one after another. -/
theorem contentsOf_flatten {blocks : List Block} (h : ∀ block ∈ blocks, block.Proper)
    {contents : List (Symbol × List Char)}
    (hcontents : contentsOf none blocks.flatten = some contents) :
    contents = blocks.flatMap Block.contents ∧
      ∀ block ∈ blocks, contentsOf none block = some block.contents := by
  induction blocks generalizing contents with
  | nil =>
      cases hcontents
      simp
  | cons block rest ih =>
      obtain ⟨hblock, hrest⟩ := List.forall_mem_cons.mp h
      have hnext : ∀ line ∈ rest.flatten.head?, ¬ Text.NoArrow line := by
        cases rest with
        | nil => simp
        | cons next rest =>
            obtain ⟨line, hline, harrow⟩ := (hrest next List.mem_cons_self).head
            rw [List.flatten_cons, List.head?_append, Option.mem_def.mp hline]
            simpa using harrow
      rw [List.flatten_cons, contentsOf_append hnext, Option.bind_eq_some_iff] at hcontents
      obtain ⟨own, hown, hcontents⟩ := hcontents
      obtain ⟨others, hothers, rfl⟩ := Option.map_eq_some_iff.mp hcontents
      obtain ⟨heq, hblocks⟩ := ih hrest hothers
      have hself : contentsOf none block = some block.contents := by
        rw [Block.contents, hown]
        rfl
      refine ⟨?_, List.forall_mem_cons.mpr ⟨hself, hblocks⟩⟩
      rw [List.flatMap_cons, heq, Option.some.inj (hown.symm.trans hself)]

theorem filter_flatMap_contents {blocks : List Block}
    (h : ∀ block ∈ blocks, ∀ content ∈ block.contents, content.1 = block.left) (left : Symbol) :
    (blocks.flatMap Block.contents).filter (·.1 = left) =
      (blocks.filter (·.left = left)).flatMap Block.contents := by
  induction blocks with
  | nil => rfl
  | cons block rest ih =>
      obtain ⟨hblock, hrest⟩ := List.forall_mem_cons.mp h
      rw [List.flatMap_cons, List.filter_append, ih hrest, List.filter_cons]
      by_cases hleft : block.left = left
      · have hall : block.contents.filter (·.1 = left) = block.contents :=
          List.filter_eq_self.mpr fun content hcontent => by simp [hblock content hcontent, hleft]
        rw [hall, if_pos (by simpa using hleft), List.flatMap_cons]
      · have hnone : block.contents.filter (·.1 = left) = [] :=
          List.filter_eq_nil_iff.mpr fun content hcontent => by
            simp [hblock content hcontent, hleft]
        rw [hnone, if_neg (by simpa using hleft), List.nil_append]

end Reading

namespace Grammar

open Reading

variable {lexing : Lexing} {text : String}

/-! ### Texts -/

theorem contents_eq_flatMap (h : (load lexing text).2 = []) :
    contents text = (blocks text).flatMap Block.contents ∧
      ∀ block ∈ blocks text, block.contents ≠ [] ∧
        ∀ content ∈ block.contents, content.1 = block.left := by
  have hcontents := contentsOf_filter (faultsOf_eq_nil_of_faultless h)
  have hfirst : ∀ line ∈ ((Text.lines text.toList).filter
      fun line => !line.all Text.isBlank).head?, ¬ Text.NoArrow line := by
    intro line hline
    obtain ⟨rest, hrest⟩ := List.head?_eq_some_iff.mp hline
    rw [hrest, contentsOf] at hcontents
    cases hread : readLine none line with
    | error fault => simp [hread] at hcontents
    | ok content =>
        rcases readLine_eq_ok_iff.mp hread with ⟨l, r, hone, -⟩ | ⟨-, _, -, hnone, -⟩
        · exact noArrow_ne_oneArrow hone
        · cases hnone
  have hproper := proper_of_mem_splitBy hfirst
  rw [← List.flatten_splitBy (fun _ line => Text.NoArrow line)
    ((Text.lines text.toList).filter _)] at hcontents
  obtain ⟨heq, hblocks⟩ := contentsOf_flatten hproper hcontents
  exact ⟨heq, fun block hblock => (hproper block hblock).contents (hblocks block hblock)⟩

theorem contents_filter (h : (load lexing text).2 = []) (left : Symbol) :
    (contents text).filter (·.1 = left) =
      ((blocks text).filter (·.left = left)).flatMap Block.contents := by
  obtain ⟨heq, hblocks⟩ := contents_eq_flatMap h
  rw [heq, filter_flatMap_contents fun block hblock => (hblocks block hblock).2]

theorem head?_contents (h : (load lexing text).2 = []) :
    ((contents text).map Prod.fst).head? = (blocks text).head?.map Block.left := by
  obtain ⟨heq, hblocks⟩ := contents_eq_flatMap h
  rw [heq]
  cases hfirst : blocks text with
  | nil => rfl
  | cons block rest =>
      obtain ⟨hne, hblock⟩ := hblocks block (hfirst ▸ List.mem_cons_self)
      obtain ⟨content, others, hcontents⟩ := List.exists_cons_of_ne_nil hne
      rw [List.flatMap_cons, hcontents]
      simp [hblock content (hcontents ▸ List.mem_cons_self)]

/-- The productions of a text without fault are told by what it says of each left side. -/
theorem mem_productions_iff (h : (load lexing text).2 = []) {p : Production} :
    p ∈ (load lexing text).1.productions ↔ p.left ∈ (contents text).map Prod.fst ∧
      p.alternatives = ((contents text).filter (·.1 = p.left)).flatMap
        fun rule => alternativesIn lexing rule.2 := by
  rw [(load_of_faultless h).2, List.mem_map]
  constructor
  · rintro ⟨left, hleft, rfl⟩
    exact ⟨List.mem_eraseDups.mp hleft, rfl⟩
  · rintro ⟨hleft, halternatives⟩
    refine ⟨p.left, List.mem_eraseDups.mpr hleft, ?_⟩
    rw [← halternatives]

/-- A table with the same productions has every symbol of a text without fault. -/
theorem named_subset_of_faultless (h : (load lexing text).2 = []) {g : Grammar} (hg : g.WellFormed)
    (hproductions : (load lexing text).1.productions ⊆ g.productions) :
    (load lexing text).1.symbols.named ⊆ g.symbols.named := by
  intro s hs
  rcases mem_named_of_faultless h hs with ⟨p, hp, rfl⟩ | ⟨r, hr, hmem⟩
  · exact (mem_nonTerminals.mp (hg.left_mem p (hproductions hp))).1
  · have hrule : r ∈ g.rules := by
      obtain ⟨p, hp, hleft, halternative⟩ := (mem_rules_iff _ _ _).mp hr
      exact (mem_rules_iff _ _ _).mpr ⟨p, hproductions hp, hleft, halternative⟩
    exact (hg.mem_named r hrule s hmem).resolve_left
      ((wellFormed_load lexing text).symbols.nameable s hs).ne_epsilon

end Grammar

namespace Reading.SameBlocks

open Grammar

variable {lexing : Lexing} {text text' : String} (hsame : SameBlocks text text')
  (h : (load lexing text).2 = []) (h' : (load lexing text').2 = [])
include hsame h h'

theorem mem_productions_iff {p : Production} :
    p ∈ (load lexing text).1.productions ↔ p ∈ (load lexing text').1.productions := by
  have hlefts : ((contents text).map Prod.fst).Perm ((contents text').map Prod.fst) := by
    rw [(contents_eq_flatMap h).1, (contents_eq_flatMap h').1]
    exact (hsame.perm.flatMap_right _).map _
  rw [Grammar.mem_productions_iff h, Grammar.mem_productions_iff h', hlefts.mem_iff,
    contents_filter h, contents_filter h', hsame.inOrder]

theorem reordered_load : (load lexing text).1.Reordered (load lexing text').1 := by
  have hg := wellFormed_load lexing text
  have hg' := wellFormed_load lexing text'
  have hproductions : ∀ p, p ∈ (load lexing text).1.productions ↔
      p ∈ (load lexing text').1.productions := fun _ => hsame.mem_productions_iff h h'
  refine ⟨hg, hg', ?_, ?_, ?_⟩
  · exact (List.perm_ext_iff_of_nodup (.of_map _ hg.lefts_nodup) (.of_map _ hg'.lefts_nodup)).mpr
      hproductions
  · refine (List.perm_ext_iff_of_nodup hg.symbols.named_nodup hg'.symbols.named_nodup).mpr
      fun s => ⟨fun hs => ?_, fun hs => ?_⟩
    · exact named_subset_of_faultless h hg' (fun p => (hproductions p).mp) hs
    · exact named_subset_of_faultless h' hg (fun p => (hproductions p).mpr) hs
  · rw [(load_of_faultless h).1, (load_of_faultless h').1, head?_contents h, head?_contents h',
      hsame.first]

end Reading.SameBlocks

namespace Analysis

open Grammar Reading

/-- The order in which productions are written does not matter. -/
theorem run_sameOutcome {lexing : Lexing} {text text' : String}
    (h : (load lexing text).2 = []) (h' : (load lexing text').2 = [])
    (hsame : SameBlocks text text') (config : Config) :
    SameOutcome (run (load lexing text).1 config) (run (load lexing text').1 config) :=
  sameOutcome_of_reordered (hsame.reordered_load h h') config

/-- Two left sides that are left-recursive, one of them in two blocks, and one to be factored. -/
theorem run_sameOutcome_sums :
    (load .compact "E -> E + T\nT -> T * F\n  | F\nF -> x y | x z\nE -> T").2 = [] ∧
      (load .compact "E -> E + T\nF -> x y | x z\nE -> T\nT -> T * F\n  | F").2 = [] ∧
      SameBlocks "E -> E + T\nT -> T * F\n  | F\nF -> x y | x z\nE -> T"
        "E -> E + T\nF -> x y | x z\nE -> T\nT -> T * F\n  | F" ∧
      ∃ analysis analysis',
        run (load .compact "E -> E + T\nT -> T * F\n  | F\nF -> x y | x z\nE -> T").1 {} =
          .ok analysis ∧
        run (load .compact "E -> E + T\nF -> x y | x z\nE -> T\nT -> T * F\n  | F").1 {} =
          .ok analysis' ∧
        analysis.Agrees analysis' := by
  have hload :
      (load .compact "E -> E + T\nT -> T * F\n  | F\nF -> x y | x z\nE -> T").2 = [] := by cbv
  have hload' :
      (load .compact "E -> E + T\nF -> x y | x z\nE -> T\nT -> T * F\n  | F").2 = [] := by cbv
  have hvalidate : (load .compact
      "E -> E + T\nT -> T * F\n  | F\nF -> x y | x z\nE -> T").1.validate = .ok () := by cbv
  have hcycle : (load .compact
      "E -> E + T\nT -> T * F\n  | F\nF -> x y | x z\nE -> T").1.indirectCycle?.isSome = false := by
    cbv
  have hsame : SameBlocks "E -> E + T\nT -> T * F\n  | F\nF -> x y | x z\nE -> T"
      "E -> E + T\nF -> x y | x z\nE -> T\nT -> T * F\n  | F" := by decide +kernel
  obtain ⟨hstart, hcomplete⟩ := validate_eq_ok_iff.mp hvalidate
  obtain ⟨analysis, hrun⟩ := run_of_complete (wellFormed_load _ _) hstart hcomplete
    fun hstops : Config.StopsAtCycle {} _ => Bool.false_ne_true (hcycle.symm.trans hstops.2)
  have houtcome := run_sameOutcome hload hload' hsame {}
  rw [hrun] at houtcome
  obtain ⟨analysis', hrun', hagrees⟩ := houtcome.exists_agrees
  exact ⟨hload, hload', hsame, analysis, analysis', hrun, hrun', hagrees⟩

end Analysis

end Predictive
