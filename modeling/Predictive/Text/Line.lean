import Predictive.Text.Blank

/-!
# Lines and arrows

A text is a sequence of lines, each ended by a line feed. A carriage return directly before the
line feed belongs to the ending; a text that does not end in a line feed has a last line without
ending, and that line keeps a final carriage return.

`splitArrow` cuts a line at every `->`. The cuts are found from left to right and do not overlap,
so `-->` is a hyphen followed by an arrow.
-/

namespace Predictive.Text

def dropReturn (line : List Char) : List Char :=
  if line.getLast? = some '\r' then line.dropLast else line

/-- The lines of a text whose pieces between line feeds are given. -/
def linesOfPieces : List (List Char) → List (List Char)
  | [] => []
  | [last] => if last.isEmpty then [] else [last]
  | line :: rest => dropReturn line :: linesOfPieces rest

/-- The lines of a text, without their endings. -/
def lines (cs : List Char) : List (List Char) :=
  linesOfPieces (cs.splitOn '\n')

/-- The pieces of a line between its arrows. -/
def splitArrow : List Char → List (List Char)
  | [] => [[]]
  | '-' :: '>' :: cs => [] :: splitArrow cs
  | c :: cs => (splitArrow cs).modifyHead (c :: ·)

theorem splitArrow_ne_nil (cs : List Char) : splitArrow cs ≠ [] := by
  fun_induction splitArrow cs with
  | case1 => simp
  | case2 => simp
  | case3 c cs _ ih =>
      cases h : splitArrow cs with
      | nil => exact absurd h ih
      | cons piece pieces => simp

end Predictive.Text
