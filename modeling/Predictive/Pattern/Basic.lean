import Predictive.CharSet.Basic

/-!
# Patterns of texts

A pattern describes pieces of a text. A text of `n` characters has `n + 1` places, and a set of
places is a list with a mark for each. `Pattern.ends` takes the places where pieces start and gives
the places where they end; it has one equation for each kind of pattern. A pattern occurs in a text
if some piece of the text is as the pattern describes.
-/

namespace Predictive

/-- How a place stands to the words around it. -/
inductive WordPlace
  /-- A word starts or ends. -/
  | edge
  | noEdge
  | start
  | finish
  | noneBefore
  | noneBehind
deriving DecidableEq

namespace WordPlace

/-- Whether a place is of this kind between a character of a word or not, and another. -/
def holds (place : WordPlace) (before behind : Bool) : Bool :=
  match place with
  | edge => before != behind
  | noEdge => before == behind
  | start => !before && behind
  | finish => before && !behind
  | noneBefore => !before
  | noneBehind => !behind

end WordPlace

/-- What is asked of a place. With `byReturn` a carriage return ends lines too. -/
inductive Look
  | textStart
  | textEnd
  | lineStart (byReturn : Bool)
  | lineEnd (byReturn : Bool)
  | word (place : WordPlace) (set : CharSet)

namespace Look

/-- Whether a place between two characters is as asked. There is none before the first place of a
text, and none behind the last. -/
def holds (look : Look) (before? behind? : Option Char) : Bool :=
  match look with
  | textStart => before?.isNone
  | textEnd => behind?.isNone
  | lineStart byReturn =>
    before?.isNone || before? == some '\n' ||
      (byReturn && before? == some '\r' && behind? != some '\n')
  | lineEnd byReturn =>
    behind?.isNone || (byReturn && behind? == some '\r') ||
      (behind? == some '\n' && !(byReturn && before? == some '\r'))
  | word place set => place.holds (before?.any set.has) (behind?.any set.has)

end Look

inductive Pattern
  | empty
  | one (set : CharSet)
  | look (look : Look)
  | seq (p q : Pattern)
  | either (p q : Pattern)
  /-- What is told apart from what is around it. -/
  | group (p : Pattern)
  /-- At least `least` times, and at most `most?` times if that is given. -/
  | repeated (least : Nat) (most? : Option Nat) (p : Pattern)

/-- A set of places of a text. -/
abbrev Marks := List Bool

namespace Marks

def join (a b : Marks) : Marks := List.zipWith or a b

/-- Steps a number of times, or until a step leads nowhere else. -/
def steps (step : Marks → Marks) : Nat → Marks → Marks
  | 0, marks => marks
  | n + 1, marks =>
    let next := step marks
    if next = marks then marks else steps step n next

/-- The places that are reached in at most a number of steps. -/
def spread (step : Marks → Marks) : Nat → Marks → Marks
  | 0, marks => marks
  | n + 1, marks =>
    let more := join marks (step marks)
    if more = marks then marks else spread step n more

variable {step : Marks → Marks} {size : Nat}

theorem length_join {a b : Marks} (ha : a.length = size) (hb : b.length = size) :
    (join a b).length = size := by
  rw [join, List.length_zipWith, ha, hb, Nat.min_self]

theorem length_steps (h : ∀ marks : Marks, marks.length = size → (step marks).length = size)
    (n : Nat) {marks : Marks} (hm : marks.length = size) : (steps step n marks).length = size := by
  induction n generalizing marks with
  | zero => exact hm
  | succ n ih =>
      simp only [steps]
      split
      · exact hm
      · exact ih (h marks hm)

theorem length_spread (h : ∀ marks : Marks, marks.length = size → (step marks).length = size)
    (n : Nat) {marks : Marks} (hm : marks.length = size) : (spread step n marks).length = size := by
  induction n generalizing marks with
  | zero => exact hm
  | succ n ih =>
      simp only [spread]
      split
      · exact hm
      · exact ih (length_join hm (h marks hm))

end Marks

namespace Pattern

/-- The characters before and behind each place of a text. -/
def surroundings (before? : Option Char) : List Char → List (Option Char × Option Char)
  | [] => [(before?, none)]
  | c :: rest => (before?, some c) :: surroundings (some c) rest

/-- The places where pieces of a text end that start at the marked places. -/
def ends (text : List Char) : Pattern → Marks → Marks
  | empty, marks => marks
  | one set, marks => false :: List.zipWith (fun c mark => mark && set.has c) text marks
  | look l, marks =>
    List.zipWith (fun around mark => mark && l.holds around.1 around.2)
      (surroundings none text) marks
  | seq p q, marks => q.ends text (p.ends text marks)
  | either p q, marks => (p.ends text marks).join (q.ends text marks)
  | group p, marks => p.ends text marks
  | repeated least most? p, marks =>
    let further := match most? with
      | some most => most - least
      | none => marks.length
    Marks.spread (p.ends text) further (Marks.steps (p.ends text) least marks)

def occursIn (p : Pattern) (text : List Char) : Bool :=
  (p.ends text (List.replicate (text.length + 1) true)).any id

theorem length_surroundings (before? : Option Char) (text : List Char) :
    (surroundings before? text).length = text.length + 1 := by
  induction text generalizing before? with
  | nil => rfl
  | cons c text ih => simp [surroundings, ih]

/-- The ends of pieces are places of the same text as their starts. -/
theorem length_ends (text : List Char) (p : Pattern) {marks : Marks}
    (h : marks.length = text.length + 1) : (p.ends text marks).length = text.length + 1 := by
  induction p generalizing marks with
  | empty => exact h
  | one set => simp [ends, h]
  | look l => simp [ends, length_surroundings, h]
  | seq p q ihp ihq => exact ihq (ihp h)
  | either p q ihp ihq => exact Marks.length_join (ihp h) (ihq h)
  | group p ih => exact ih h
  | repeated least most? p ih =>
      exact Marks.length_spread (fun _ => ih) _ (Marks.length_steps (fun _ => ih) _ h)

end Pattern

end Predictive
