/-!
# Shortest decimals

A binary floating-point value stands for all reals that round to it. `shortest` finds a decimal
with the fewest digits in that interval, and of two such decimals the one nearer to the value, or
the even one when both are equally near. All comparisons are between natural numbers.
-/

namespace Predictive

/-- The number `digits * 10 ^ exponent`. -/
structure Decimal where
  digits : Nat
  exponent : Int
deriving DecidableEq

namespace Decimal

/-- The value `significand * 2 ^ exponent` of a finite non-negative floating-point number. -/
structure Binary where
  significand : Nat
  exponent : Int
  /-- The gap to the next value below is half as wide as the gap to the next value above. -/
  narrowBelow : Bool

namespace Binary

/-- The value of a finite number of 64 bits, without its sign. -/
def ofBits (bits : UInt64) : Binary :=
  let e := ((bits >>> 52) &&& 0x7FF).toNat
  let f := (bits &&& 0xFFFFFFFFFFFFF).toNat
  if e = 0 then ⟨f, -1074, false⟩
  else ⟨Nat.pow 2 52 + f, (e : Int) - 1075, f = 0 && 1 < e⟩

end Binary

/-- Compares `a * 10 ^ i` with `n * 2 ^ j`. -/
def compareScaled (a : Nat) (i : Int) (n : Nat) (j : Int) : Ordering :=
  compare (a * Nat.pow 10 i.toNat * Nat.pow 2 (-j).toNat)
    (n * Nat.pow 2 j.toNat * Nat.pow 10 (-i).toNat)

/-- Whether a decimal is among the reals that round to a value. The ends of the interval belong to
it exactly when the significand is even. -/
def Binary.accepts (x : Binary) (d : Decimal) : Bool :=
  let low := if x.narrowBelow then 4 * x.significand - 1 else 4 * x.significand - 2
  let high := 4 * x.significand + 2
  let closed := x.significand % 2 = 0
  let fromLow := compareScaled d.digits d.exponent low (x.exponent - 2)
  let fromHigh := compareScaled d.digits d.exponent high (x.exponent - 2)
  (fromLow = .gt || (closed && fromLow = .eq)) && (fromHigh = .lt || (closed && fromHigh = .eq))

/-- The greatest integer `n` with `n * 10 ^ k` not above the value. -/
def Binary.floorAt (x : Binary) (k : Int) : Nat :=
  (x.significand * Nat.pow 2 x.exponent.toNat * Nat.pow 10 (-k).toNat) /
    (Nat.pow 2 (-x.exponent).toNat * Nat.pow 10 k.toNat)

/-- The nearer of two neighbours `n` and `n + 1` on the grid of `10 ^ k`, or the even one. -/
def Binary.nearest (x : Binary) (n : Nat) (k : Int) : Nat :=
  match compareScaled (2 * n + 1) k (2 * x.significand) x.exponent with
  | .gt => n
  | .lt => n + 1
  | .eq => if n % 2 = 0 then n else n + 1

/-- A decimal on the grid of `10 ^ k` that is accepted for a value. -/
def Binary.onGrid? (x : Binary) (k : Int) : Option Decimal :=
  let n := x.floorAt k
  match x.accepts ⟨n, k⟩, x.accepts ⟨n + 1, k⟩ with
  | true, true => some ⟨x.nearest n k, k⟩
  | true, false => some ⟨n, k⟩
  | false, true => some ⟨n + 1, k⟩
  | false, false => none

def length (n : Nat) : Nat := (Nat.toDigits 10 n).length

/-- The exponent `k` of the first digit of a positive value, `10 ^ k ≤ x < 10 ^ (k + 1)`. -/
def Binary.scale (x : Binary) : Int :=
  let fraction := -x.exponent
  let whole := x.floorAt 0
  if 0 < whole then (length whole : Int) - 1
  else (length (x.floorAt (-fraction)) : Int) - 1 - fraction

/-- A decimal without zeros at the end of its digits. -/
def strip (digits : Nat) (exponent : Int) : Decimal :=
  if _h : digits ≠ 0 ∧ digits % 10 = 0 then strip (digits / 10) (exponent + 1)
  else ⟨digits, exponent⟩
termination_by digits
decreasing_by omega

/-- The decimal with the fewest digits that is accepted for a value. Seventeen digits suffice; the
exact value stands behind them. -/
def shortest (x : Binary) : Decimal :=
  if x.significand = 0 then ⟨0, 0⟩
  else
    let scale := x.scale
    let found := (List.range 18).findSome? fun n : Nat => x.onGrid? (scale - (n : Int))
    match found with
    | some d => strip d.digits d.exponent
    | none => ⟨x.floorAt (min x.exponent 0), min x.exponent 0⟩

end Decimal

end Predictive
