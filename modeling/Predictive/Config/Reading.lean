import Predictive.Config
import Predictive.Decrease
import Predictive.Json.Shape

/-!
# Reading a configuration

A configuration is written in JSON, as an object with any of the fields of a `Config` or as an
array of their values from the first one on. What is left out has its default.
-/

namespace Predictive

namespace Config

open Json (Reader)

def lexingNames : List (String × Lexing) :=
  [("compact", .compact), ("words", .words)]

inductive Field
  | lexing
  | factorPasses
  | eliminateLeftRecursion
deriving DecidableEq

namespace Field

/-- The fields in the order in which an array has them, with their names. -/
def named : List (String × Field) :=
  [("lexing", lexing), ("factor_passes", factorPasses),
    ("eliminate_left_recursion", eliminateLeftRecursion)]

def read (field : Field) (config : Config) : Reader Config := do
  match field with
  | lexing => return { config with lexing := ← Reader.variant lexingNames }
  | factorPasses => return { config with factorPasses := ← Reader.size }
  | eliminateLeftRecursion => return { config with eliminateLeftRecursion := ← Reader.bool }

end Field

/-- Takes the values of the given fields from an array, as many as there are. -/
def readItems (first : Bool) (config : Config) : List Field → Reader Config
  | [] => return config
  | field :: rest => do
    if ← Reader.nextItem first then
      let config ← field.read config
      readItems false config rest
    else return config

/-- Takes the name of the next field of an object. No field comes twice, so the name is one of those
that are left. -/
def readField? (first : Bool) (left : List Field) : Reader (Option Field) := do
  match ← Reader.nextField first with
  | none => return none
  | some name =>
    match Field.named.lookup name with
    | none => Reader.failBehindField (.unknownField name (Field.named.map Prod.fst))
    | some field =>
      if left.contains field then
        Reader.colon
        return some field
      else Reader.failBehindField (.duplicateField name)

/-- Takes the fields of an object. `left` are those that have not come yet. -/
def readFields (first : Bool) (config : Config) (left : List Field) : Reader Config := do
  match ← readField? first left with
  | none => return config
  | some field =>
    if _h : field ∈ left then
      let config ← field.read config
      readFields false config (left.erase field)
    else return config
termination_by left.length
decreasing_by exact length_erase_lt _h

/-- Takes a configuration that makes up the whole text. -/
def reader : Reader Config := do
  let fields := Field.named.map Prod.snd
  let config ← match ← Reader.peekSolid? with
    | none => Reader.failAhead .endInValue
    | some 0x5B => do
      Reader.skip
      let config ← readItems true {} fields
      Reader.endArray
      pure config
    | some 0x7B => do
      Reader.skip
      let config ← readFields true {} fields
      Reader.endObject
      pure config
    | some _ => Reader.wrongType "struct Config"
  Reader.endText
  return config

def ofJson (text : String) : Except Json.ReadError Config :=
  (reader.run (Json.Cursor.ofString text)).map Prod.fst

end Config

end Predictive
