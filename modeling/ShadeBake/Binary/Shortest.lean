import ShadeBake.Binary.Basic

/-! The fewest decimal digits that round to a given floating-point value. -/

namespace ShadeBake

/-- A positive decimal: its digits as a number, times a power of ten. -/
structure Decimal where
  digits : Nat
  exponent : Int
  deriving DecidableEq, Repr

namespace Decimal

/-- The number of decimal digits of a number, none for zero. -/
def length (n : Nat) : Nat :=
  if n = 0 then 0 else (Nat.toDigits 10 n).length

/-- The same decimal without zeros at the end of its digits. -/
def stripZeros (fuel : Nat) (decimal : Decimal) : Decimal :=
  match fuel with
  | 0 => decimal
  | fuel + 1 =>
    if decimal.digits % 10 = 0 then
      stripZeros fuel ⟨decimal.digits / 10, decimal.exponent + 1⟩
    else decimal

end Decimal

/-- Which of two decimals that are equally close to a value is taken. -/
inductive Tie where
  | even
  | up
  deriving DecidableEq, Repr

namespace Binary

/-- The exponent of the leading decimal digit of a positive quotient. -/
def leadingExponent (num den : Nat) : Int :=
  if den ≤ num then (Decimal.length (num / den) : Int) - 1
  else -(Decimal.length ((den + num - 1) / num - 1) : Int)

/-- The decimal with a stated number of digits that rounds to a value, if there is one.

The value is `4 * significand * unit` in quarters of its own unit; the decimals that round to it lie
`below` and above it by half of the distance to its neighbours, ends included at an even significand. -/
def withDigits (tie : Tie) (significand below : Nat) (num den : Nat) (leading : Int) (count : Nat) :
    Option Decimal :=
  -- Scaled by the grid, the value is a quotient of whole numbers and the grid points are whole.
  let grid := leading - (count : Int) + 1
  let (num, den) :=
    match grid with
    | .ofNat n => (num, den * Nat.pow 10 n)
    | .negSucc n => (num * Nat.pow 10 (n + 1), den)
  -- One quarter of the value's unit is `num / significand / 4`, so compare in parts of `4 * significand`.
  let low := num / den
  let part := 4 * significand
  let inclusive := significand % 2 == 0
  let lowIn :=
    let distance := (num - low * den) * part
    let limit := below * num
    low ≠ 0 && (distance < limit || (inclusive && distance == limit))
  let highIn :=
    let distance := ((low + 1) * den - num) * part
    let limit := 2 * num
    distance < limit || (inclusive && distance == limit)
  let takeLow :=
    let twice := 2 * (num - low * den)
    if twice < den then true
    else if den < twice then false
    else tie == .even && low % 2 == 0
  if lowIn && (takeLow || !highIn) then some ⟨low, grid⟩
  else if highIn then some ⟨low + 1, grid⟩
  else none

/-- The fewest digits that round to a positive finite value, the closest of those to it. -/
def shortest (format : BinaryFormat) (tie : Tie) (significand : Nat) (exponent : Int) : Decimal :=
  let (num, den) := scale significand 1 exponent
  -- Below a power of two the neighbours are half as far apart.
  let below :=
    if significand = Nat.pow 2 (format.precision - 1) && format.least < exponent then 1 else 2
  let leading := leadingExponent num den
  let found := (List.range 17).findSome? fun n =>
    withDigits tie significand below num den leading (n + 1)
  -- Seventeen digits always suffice, so the last case is not met.
  (found.getD ⟨significand, exponent⟩).stripZeros 18

end Binary

end ShadeBake
