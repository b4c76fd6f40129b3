import Predictive.Text.Shapeless

/-!
# Quoted texts

A quoted text shows every character of a string. The quote and the backslash have a backslash in
front of them, the null character, the tabulator, the line feed and the carriage return are written
by a letter after a backslash, and any other character without a shape of its own by its code
point.
-/

namespace Predictive.Text

def hex (n : Nat) : List Char := Nat.toDigits 16 n

def quoteChar (c : Char) : List Char :=
  if c = '"' ∨ c = '\\' then ['\\', c]
  else if c = '\x00' then ['\\', '0']
  else if c = '\t' then ['\\', 't']
  else if c = '\n' then ['\\', 'n']
  else if c = '\r' then ['\\', 'r']
  else if isShapeless c then ['\\', 'u', '\x7b'] ++ hex c.toNat ++ ['\x7d']
  else [c]

def quoted (s : String) : String :=
  "\"" ++ String.ofList (s.toList.flatMap quoteChar) ++ "\""

end Predictive.Text
