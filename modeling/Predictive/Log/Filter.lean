import Predictive.Log.Event
import Predictive.Pattern.Meaning

/-!
# Log filters

A filter says which events are shown. It is written as directives between commas: a level, a path,
or a path and a level with `=` between them. A path without a level admits all levels. Behind a
slash stands a pattern that has to occur in the messages.

Of two directives for the same path the later one counts, at the place of the earlier one. The
directive with the longest path that begins the path of an event decides about it, and of several
with no path at all the last one. Without any directive only errors are shown. What makes no sense
is left out, with a warning.
-/

namespace Predictive

namespace Log

/-- A directive admits the events of some paths up to a level; level 0 admits none. A directive
with an empty path and one that names no path are for the same events, but they are two. -/
structure Directive where
  path? : Option (List Char)
  rank : Nat

namespace Directive

def path (d : Directive) : List Char := d.path?.getD []

end Directive

structure Filter where
  directives : List Directive
  pattern? : Option Pattern

namespace Filter

def levelNames : List (String × Nat) :=
  [("off", 0), ("error", 1), ("warn", 2), ("info", 3), ("debug", 4), ("trace", 5)]

def level? (word : List Char) : Option Nat :=
  levelNames.lookup (String.ofList (word.map Char.toLower))

/-- A directive, or else the part of it that makes no sense. -/
def directive (word : List Char) : Except (List Char) Directive :=
  match word.splitOn '=' with
  | [single] =>
    match level? single with
    | some rank => .ok ⟨none, rank⟩
    | none => .ok ⟨some single, 5⟩
  | [path, level] =>
    let level := Text.trim level
    if level.isEmpty then .ok ⟨some path, 5⟩
    else
      match level? level with
      | some rank => .ok ⟨some path, rank⟩
      | none => .error level
  | _ => .error word

def readDirectives (text : List Char) : List (Except (List Char) Directive) :=
  (((text.splitOn ',').map Text.trim).filter fun word => !word.isEmpty).map directive

/-- Takes in a directive, in the place of an earlier one for the same path. -/
def insert (d : Directive) : List Directive → List Directive
  | [] => [d]
  | e :: rest => if e.path? = d.path? then d :: rest else e :: insert d rest

/-- The warning about a text that makes no sense as part of a filter. -/
def warning (text : List Char) : String :=
  "warning: invalid logging spec '" ++ String.ofList text ++ "', ignoring it"

/-- The directives that make sense, and the warnings about the others. -/
def separate : List (Except (List Char) Directive) → List Directive × List String
  | [] => ([], [])
  | .ok d :: rest =>
    let r := separate rest
    (d :: r.1, r.2)
  | .error text :: rest =>
    let r := separate rest
    (r.1, warning text :: r.2)

/-- The pattern that a text writes, and the warning if it writes none. -/
def readPattern (text : List Char) : Option Pattern × List String :=
  match Pattern.ofText text with
  | .ok pattern => (some pattern, [])
  | .error refusal => (none, ["warning: invalid regex filter - " ++ refusal.report text])

/-- Reads a filter, and gives the warnings about what it leaves out. -/
def ofString (s : String) : Filter × List String :=
  match s.toList.splitOn '/' with
  | [text] =>
    let r := separate (readDirectives text)
    (⟨collect r.1, none⟩, r.2)
  | [text, pattern] =>
    let r := separate (readDirectives text)
    let p := readPattern pattern
    (⟨collect r.1, p.1⟩, r.2 ++ p.2)
  | _ => (⟨[], none⟩, [warning s.toList ++ " (too many '/'s)"])
where
  collect (directives : List Directive) : List Directive :=
    directives.foldl (fun all d => insert d all) []

/-- The directive that decides about a path: the last of those with the longest matching path. -/
def deciding? (path : List Char) (all : List Directive) : Option Directive :=
  all.foldl (fun best d =>
    if !d.path.isPrefixOf path then best
    else
      match best with
      | none => some d
      | some b => if b.path.length ≤ d.path.length then some d else best) none

def shows (filter : Filter) (e : Event) : Bool :=
  let rank :=
    if filter.directives.isEmpty then Level.error.rank
    else ((deciding? e.source.path.toList filter.directives).map Directive.rank).getD 0
  decide (e.level.rank ≤ rank) && filter.pattern?.all fun p => p.occursIn e.message.toList

end Filter

end Log

end Predictive
