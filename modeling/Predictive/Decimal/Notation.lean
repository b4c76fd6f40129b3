import Predictive.Decimal.Shortest

/-!
# Notation of floating-point numbers

A number is written with the fewest digits that read back. Numbers from `10 ^ -5` up to below `10 ^
16` are written positionally, with at least one digit behind the point; all others with one digit
before the point and an exponent that has a sign and no zeros in front. A negative number, a
negative zero too, has a sign in front.
-/

namespace Predictive.Decimal

structure Style where
  /-- The least exponent of the first digit that is written positionally. -/
  leastPositional : Int
  /-- The greatest exponent of the first digit that is written positionally. -/
  greatestPositional : Int

def messageStyle : Style := ⟨-5, 15⟩

def zeros (n : Nat) : List Char := List.replicate n '0'

/-- Positional notation; `exponent` is the exponent of the first digit. -/
def positional (digits : List Char) (exponent : Int) : List Char :=
  if exponent < 0 then ['0', '.'] ++ zeros (-exponent - 1).toNat ++ digits
  else
    let whole := exponent.toNat + 1
    if digits.length ≤ whole then digits ++ zeros (whole - digits.length) ++ ['.', '0']
    else digits.take whole ++ ['.'] ++ digits.drop whole

def scientific (digits : List Char) (exponent : Int) : List Char :=
  let mantissa :=
    match digits with
    | first :: second :: rest => first :: '.' :: second :: rest
    | few => few
  mantissa ++ ['e', if exponent < 0 then '-' else '+'] ++ Nat.toDigits 10 exponent.natAbs

def write (style : Style) (d : Decimal) : List Char :=
  let digits := Nat.toDigits 10 d.digits
  let exponent := d.exponent + digits.length - 1
  if style.leastPositional ≤ exponent ∧ exponent ≤ style.greatestPositional then
    positional digits exponent
  else scientific digits exponent

/-- A finite floating-point number in a style. -/
def writeFloat (style : Style) (x : Float) : String :=
  let bits := x.toBits
  let sign := if bits >>> 63 = 1 then ['-'] else []
  String.ofList (sign ++ write style (shortest (.ofBits bits)))

end Predictive.Decimal
