import Predictive.CharSet.Basic

/-!
# Edges of sets of characters

The edges of a set are the code points, in ascending order, at which what is in the set changes.
Below the first one nothing is in it, then everything up to the next, and so on in turn. An
operation on two sets goes over both lists of edges once; it decides about every stretch between
two edges, and `within_combine` says that it decides rightly.
-/

namespace Predictive

namespace Text.CodeRun

def codes (r : CodeRun) : List Nat :=
  (List.range ((r.last - r.first) / r.step + 1)).map fun n => r.first + n * r.step

end Text.CodeRun

namespace CharSet

/-- Whether a code point is in the set with the given edges. `before` says whether those below all
of them are. -/
def within (before : Bool) : List Nat → Nat → Bool
  | [], _ => before
  | edge :: rest, code => if code < edge then before else within (!before) rest code

/-- An edge in front of others, unless nothing changes at it. -/
def turn (edge : Nat) (before behind : Bool) (rest : List Nat) : List Nat :=
  if before = behind then rest else edge :: rest

/-- The edges of what an operation makes of two sets. `a` and `b` say whether the code points below
all edges are in the sets. -/
def combine (op : Bool → Bool → Bool) (a b : Bool) : List Nat → List Nat → List Nat
  | [], [] => []
  | x :: xs, [] => turn x (op a b) (op (!a) b) (combine op (!a) b xs [])
  | [], y :: ys => turn y (op a b) (op a (!b)) (combine op a (!b) [] ys)
  | x :: xs, y :: ys =>
    if x < y then turn x (op a b) (op (!a) b) (combine op (!a) b xs (y :: ys))
    else if y < x then turn y (op a b) (op a (!b)) (combine op a (!b) (x :: xs) ys)
    else turn x (op a b) (op (!a) (!b)) (combine op (!a) (!b) xs ys)
termination_by xs ys => xs.length + ys.length

/-- The edges of everything that is not in a set. -/
def outside : List Nat → List Nat
  | 0 :: edges => edges
  | edges => 0 :: edges

/-- Drops the edges where one stretch ends and the next one starts. -/
def joined (edges : List Nat) : List Nat :=
  edges.foldr (fun edge rest => if rest.head? = some edge then rest.tail else edge :: rest) []

def ofRuns (runs : List Text.CodeRun) : List Nat :=
  joined (runs.flatMap fun r =>
    if r.step = 1 then [r.first, r.last + 1] else r.codes.flatMap fun code => [code, code + 1])

def ofCategory (category : Text.Category) : List Nat :=
  if category = .unassigned then
    outside (Text.Category.listed.foldl (fun edges k => combine or false false edges
      (ofRuns k.runs)) [])
  else ofRuns category.runs

/-- The edges of the code points that are in a set in another case. -/
def otherCases (edges : List Nat) : List Nat :=
  let folding := Text.foldRuns.flatMap fun r =>
    r.run.codes.flatMap fun code => [code, ((code : Int) + r.distance).toNat]
  let cases := (folding.filter (within false edges)).flatMap fun code =>
    Text.unfoldCase (Text.foldCase code)
  joined (((cases.mergeSort).eraseReps).flatMap fun code => [code, code + 1])

def edges : CharSet → List Nat
  | range first last => if first ≤ last then [first.toNat, last.toNat + 1] else []
  | category k => ofCategory k
  | listed runs => ofRuns runs
  | blank => ofRuns (Text.blankRanges.map fun r => ⟨r.1, r.2, 1⟩)
  | none => []
  | union a b => combine or false false a.edges b.edges
  | meet a b => combine and false false a.edges b.edges
  | complement a => outside a.edges
  | anyCase a =>
    let edges := a.edges
    combine or false false edges (otherCases edges)

/-- The stretches between edges, the last one up to the last code point of all. -/
def stretches : List Nat → List Text.CodeRun
  | [] => []
  | [first] => [⟨first, 0x10FFFF, 1⟩]
  | first :: behind :: rest => ⟨first, behind - 1, 1⟩ :: stretches rest

/-- The same characters as a plain list of runs. -/
def flat (set : CharSet) : CharSet := .listed (stretches set.edges)

theorem within_of_lt {before : Bool} {edges : List Nat} {code : Nat}
    (h : ∀ edge ∈ edges, code < edge) : within before edges code = before := by
  cases edges with
  | nil => rfl
  | cons edge rest => simp [within, h edge List.mem_cons_self]

theorem within_turn {edge code : Nat} {before behind : Bool} {rest : List Nat}
    (h : code < edge → within behind rest code = behind) :
    within before (turn edge before behind rest) code =
      if code < edge then before else within behind rest code := by
  unfold turn
  split
  · subst_vars
    split
    · rename_i hlt
      exact h hlt
    · rfl
  · rename_i hne
    have hb : (!before) = behind := by cases before <;> cases behind <;> simp_all
    rw [within, hb]

/-- An operation on edges is that operation on what is in the sets. -/
theorem within_combine (op : Bool → Bool → Bool) {a b : Bool} {xs ys : List Nat}
    (hx : xs.Pairwise (· < ·)) (hy : ys.Pairwise (· < ·)) (code : Nat) :
    within (op a b) (combine op a b xs ys) code = op (within a xs code) (within b ys code) := by
  fun_induction combine op a b xs ys with
  | case1 => rfl
  | case2 a b x xs ih =>
      have hxs := List.pairwise_cons.mp hx
      have ih := ih hxs.2 hy
      have below : code < x → within (!a) xs code = !a := fun hlt =>
        within_of_lt fun e he => Nat.lt_trans hlt (hxs.1 e he)
      rw [within_turn fun hlt => by rw [ih, below hlt]; rfl, ih, within.eq_2 a]
      split <;> rfl
  | case3 a b y ys ih =>
      have hys := List.pairwise_cons.mp hy
      have ih := ih hx hys.2
      have below : code < y → within (!b) ys code = !b := fun hlt =>
        within_of_lt fun e he => Nat.lt_trans hlt (hys.1 e he)
      rw [within_turn fun hlt => by rw [ih, below hlt]; rfl, ih, within.eq_2 b]
      split <;> rfl
  | case4 a b x xs y ys hxy ih =>
      have hxs := List.pairwise_cons.mp hx
      have hys := List.pairwise_cons.mp hy
      have ih := ih hxs.2 hy
      have below : code < x → within (!a) xs code = !a := fun hlt =>
        within_of_lt fun e he => Nat.lt_trans hlt (hxs.1 e he)
      have aside : code < x → within b (y :: ys) code = b := fun hlt => by
        rw [within, if_pos (Nat.lt_trans hlt hxy)]
      rw [within_turn fun hlt => by rw [ih, below hlt, aside hlt], ih, within.eq_2 a]
      split
      · rename_i hlt
        rw [aside hlt]
      · rfl
  | case5 a b x xs y ys _ hyx ih =>
      have hxs := List.pairwise_cons.mp hx
      have hys := List.pairwise_cons.mp hy
      have ih := ih hx hys.2
      have below : code < y → within (!b) ys code = !b := fun hlt =>
        within_of_lt fun e he => Nat.lt_trans hlt (hys.1 e he)
      have aside : code < y → within a (x :: xs) code = a := fun hlt => by
        rw [within, if_pos (Nat.lt_trans hlt hyx)]
      rw [within_turn fun hlt => by rw [ih, below hlt, aside hlt], ih, within.eq_2 b]
      split
      · rename_i hlt
        rw [aside hlt]
      · rfl
  | case6 a b x xs y ys hxy hyx ih =>
      obtain rfl : x = y := by omega
      have hxs := List.pairwise_cons.mp hx
      have hys := List.pairwise_cons.mp hy
      have ih := ih hxs.2 hys.2
      rw [within_turn fun hlt => by
        rw [ih, within_of_lt fun e he => Nat.lt_trans hlt (hxs.1 e he),
          within_of_lt fun e he => Nat.lt_trans hlt (hys.1 e he)], ih, within.eq_2 a, within.eq_2 b]
      split <;> rfl

theorem within_not (before : Bool) (edges : List Nat) (code : Nat) :
    within (!before) edges code = !within before edges code := by
  induction edges generalizing before with
  | nil => rfl
  | cons edge rest ih =>
      simp only [within, ih]
      split <;> rfl

/-- Everything outside a set is what is not in it. -/
theorem within_outside (edges : List Nat) (code : Nat) :
    within false (outside edges) code = !within false edges code := by
  unfold outside
  split
  · simpa [within] using within_not true _ code
  · simpa [within] using within_not false _ code

end CharSet

end Predictive
