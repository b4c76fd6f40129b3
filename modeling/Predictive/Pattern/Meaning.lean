import Predictive.Pattern.Machine
import Predictive.Pattern.Nesting
import Predictive.Pattern.Property
import Predictive.Pattern.Reading

/-!
# The pattern that is written

Flags say what a written pattern means: whether case counts, whether the anchors of lines and the
sign for any character mind line ends, and whether classes go beyond ASCII. Where they do not, a
class must not be negated, because it would then go beyond ASCII all the same. Flags that change
how a pattern is written or which of several pieces is preferred have no meaning here.

A text that writes no pattern is refused with the fault in it. A pattern is also refused when its
machine is too large.
-/

namespace Predictive.Pattern

structure Flags where
  ignoreCase : Bool := false
  manyLines : Bool := false
  dotAll : Bool := false
  byReturn : Bool := false
  unicode : Bool := true

namespace Flags

def change (flags : Flags) (changes : Changes) : Flags :=
  changes.foldl (fun flags change =>
    match change with
    | (.ignoreCase, on) => { flags with ignoreCase := on }
    | (.manyLines, on) => { flags with manyLines := on }
    | (.dotAll, on) => { flags with dotAll := on }
    | (.byReturn, on) => { flags with byReturn := on }
    | (.unicode, on) => { flags with unicode := on }
    | (.swapGreed, _) | (.spaced, _) => flags) flags

/-- A set with what differs from its members only in case, if case does not count. -/
def folded (flags : Flags) (set : CharSet) : CharSet :=
  if !flags.ignoreCase then set
  else if flags.unicode then (CharSet.anyCase set).flat
  else (CharSet.meet .ascii (.anyCase set)).flat

def negated (flags : Flags) (negated : Bool) (span : Span) (set : CharSet) :
    Except Fault CharSet :=
  if !negated then .ok set
  else if flags.unicode then .ok (.complement set)
  else .error { cause := .notUtf8, span }

/-- The character of a literal in a class. -/
def classChar (flags : Flags) (l : Literal) : Except Fault Char :=
  if flags.unicode ∨ l.char.toNat < 0x80 then .ok l.char
  else .error { cause := if l.asByte then .notUtf8 else .notAscii, span := l.span }

end Flags

namespace Flags

def shorthandSet (flags : Flags) : Shorthand → CharSet
  | .digit => if flags.unicode then .digit else .asciiDigit
  | .blank => if flags.unicode then .blank else .asciiBlank
  | .word => if flags.unicode then .word else .asciiWord

def propertySet (flags : Flags) (property : Property) (negated : Bool) (span : Span) :
    Except Fault CharSet :=
  if !flags.unicode then .error { cause := .notAscii, span }
  else
    match property.set with
    | .ok set => flags.negated negated span (flags.folded set)
    | .error cause => .error { cause, span }

end Flags

def SetOperation.apply : SetOperation → CharSet → CharSet → CharSet
  | meet => CharSet.meet
  | without => CharSet.without
  | apart => CharSet.apart

/-- The characters that members of a class describe. -/
def Members.set (flags : Flags) : Members → Except Fault CharSet
  | none => return .none
  | literal l => return .single (← flags.classChar l)
  | range first last => return .range (← flags.classChar first) (← flags.classChar last)
  | shorthand s negated span => flags.negated negated span (flags.shorthandSet s)
  | property p negated span => flags.propertySet p negated span
  | ascii set negated span => flags.negated negated span (flags.folded set)
  | bracket negated members span => do
    flags.negated negated span (flags.folded (← members.set flags))
  | union a b => return .union (← a.set flags) (← b.set flags)
  | combined operation a b => do
    let a ← a.set flags
    let b ← b.set flags
    return operation.apply (flags.folded a) (flags.folded b)
  | level _ members => members.set flags

namespace Flags

def literalSet (flags : Flags) (l : Literal) : Except Fault CharSet :=
  if flags.unicode ∨ l.char.toNat < 0x80 then .ok (flags.folded (.single l.char))
  else if l.asByte then .error { cause := .notUtf8, span := l.span }
  else .ok (.single l.char)

/-- The characters that the sign for any character stands for. -/
def anyChar (flags : Flags) : CharSet :=
  if flags.dotAll then .any
  else if flags.byReturn then .complement (.ofList ['\n', '\r'])
  else .complement (.single '\n')

def look (flags : Flags) : Anchor → Look
  | .lineStart => if flags.manyLines then .lineStart flags.byReturn else .textStart
  | .lineEnd => if flags.manyLines then .lineEnd flags.byReturn else .textEnd
  | .textStart => .textStart
  | .textEnd => .textEnd
  | .word place => .word place (flags.shorthandSet .word)

def atomPattern (flags : Flags) : Atom → Except Fault Pattern
  | .literal l => return .one (← flags.literalSet l)
  | .anyChar span =>
    if flags.unicode then .ok (.one flags.anyChar) else .error { cause := .notUtf8, span }
  | .shorthand s negated span => return .one (← flags.negated negated span (flags.shorthandSet s))
  | .property p negated span => return .one (← flags.propertySet p negated span)
  | .anchor a _ => .ok (.look (flags.look a))

end Flags

/-- The pattern that a tree describes, and the flags behind it. -/
def Tree.pattern (flags : Flags) : Tree → Except Fault (Pattern × Flags)
  | empty => return (.empty, flags)
  | atom a => return (← flags.atomPattern a, flags)
  | bracket negated members span => do
    let set ← flags.negated negated span (flags.folded (← members.set flags))
    return (.one set, flags)
  | Tree.flags changes => return (.empty, flags.change changes)
  | group apart changes inner => do
    let (p, _) ← inner.pattern (flags.change changes)
    return (if apart then .group p else p, flags)
  | repeated least most? inner => do
    let (p, flags) ← inner.pattern flags
    return (.repeated least most? p, flags)
  | seq a b => do
    let (p, flags) ← a.pattern flags
    let (q, flags) ← b.pattern flags
    return (.seq p q, flags)
  | either a b => do
    let (p, flags) ← a.pattern flags
    let (q, flags) ← b.pattern flags
    return (.either p q, flags)
  | level _ inner => inner.pattern flags

/-- Why there is no pattern. -/
inductive Refusal
  | faulty (fault : Fault)
  | tooLarge

/-- The report about the refusal of a written pattern. -/
def Refusal.report (pattern : List Char) : Refusal → String
  | faulty fault => fault.report pattern
  | tooLarge => "Compiled regex exceeds size limit of " ++ toString Machine.limit ++ " bytes."

/-- The pattern that a text writes. -/
def ofText (text : List Char) : Except Refusal Pattern :=
  let read : Except Fault Pattern := do
    let tree ← (← Tree.ofText text).checked
    return (← tree.pattern {}).1
  match read with
  | .error fault => .error (.faulty fault)
  | .ok pattern => if pattern.isSmall then .ok pattern else .error .tooLarge

end Predictive.Pattern
