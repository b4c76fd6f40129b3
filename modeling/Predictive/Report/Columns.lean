/-!
# Columns of text

Rows of texts are set in columns. Every column is as wide as its widest text, counted in code
points, the texts stand at the right of their columns, and ` | ` separates the columns.
-/

namespace Predictive.Columns

/-- The text with spaces in front of it up to a width. -/
def padLeft (width : Nat) (text : String) : String :=
  String.ofList (List.replicate (width - text.length) ' ') ++ text

/-- The greater of the widths at each position. -/
def widen : List Nat → List Nat → List Nat
  | [], widths => widths
  | widths, [] => widths
  | a :: as, b :: bs => max a b :: widen as bs

def widths (rows : List (List String)) : List Nat :=
  rows.foldr (fun row ws => widen (row.map String.length) ws) []

def line (widths : List Nat) (row : List String) : String :=
  " | ".intercalate (List.zipWith padLeft widths row)

/-- The rows set in columns, one a line. -/
def align (rows : List (List String)) : String :=
  "\n".intercalate (rows.map (line (widths rows)))

theorem length_padLeft (width : Nat) (text : String) :
    (padLeft width text).length = max width text.length := by
  simp only [padLeft, String.length_append, String.length_ofList, List.length_replicate]
  omega

end Predictive.Columns
