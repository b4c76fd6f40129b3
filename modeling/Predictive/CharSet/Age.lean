import Predictive.CharSet.Age.Table
import Predictive.CharSet.Basic

/-!
# Ages of characters

The age of a character is the version of the standard that assigned it first. The set of an age has
the characters of all earlier ages too.
-/

namespace Predictive.CharSet

/-- A version of the standard, with the code points that are new in it. -/
structure Age where
  major : Nat
  minor : Nat
  runs : List Text.CodeRun

namespace Age

open AgeTable

/-- The ages from the first one on. -/
def all : List Age :=
  [⟨1, 1, v1_1⟩, ⟨2, 0, v2_0⟩, ⟨2, 1, v2_1⟩, ⟨3, 0, v3_0⟩, ⟨3, 1, v3_1⟩, ⟨3, 2, v3_2⟩, ⟨4, 0, v4_0⟩,
    ⟨4, 1, v4_1⟩, ⟨5, 0, v5_0⟩, ⟨5, 1, v5_1⟩, ⟨5, 2, v5_2⟩, ⟨6, 0, v6_0⟩, ⟨6, 1, v6_1⟩,
    ⟨6, 2, v6_2⟩, ⟨6, 3, v6_3⟩, ⟨7, 0, v7_0⟩, ⟨8, 0, v8_0⟩, ⟨9, 0, v9_0⟩, ⟨10, 0, v10_0⟩,
    ⟨11, 0, v11_0⟩, ⟨12, 0, v12_0⟩, ⟨12, 1, v12_1⟩, ⟨13, 0, v13_0⟩, ⟨14, 0, v14_0⟩, ⟨15, 0, v15_0⟩,
    ⟨15, 1, v15_1⟩, ⟨16, 0, v16_0⟩, ⟨17, 0, v17_0⟩]

/-- The names of an age, in lower case and without anything between their words. -/
def names (age : Age) : List String :=
  let major := toString age.major
  let minor := toString age.minor
  [major ++ "." ++ minor, "v" ++ major ++ minor]

/-- The characters of an age, by one of its names. -/
def set? (name : String) : Option CharSet := do
  let position ← all.findIdx? fun age => age.names.contains name
  return unions ((all.take (position + 1)).map fun age => listed age.runs)

end Age

end Predictive.CharSet
