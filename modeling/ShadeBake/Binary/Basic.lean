/-! Binary floating point of a stated format, with exact arithmetic and one rounding to nearest. -/

namespace ShadeBake

/-- A format fixes the bits of a significand and the range of the exponents of its unit. -/
structure BinaryFormat where
  precision : Nat
  least : Int
  greatest : Int
  deriving DecidableEq, Repr

namespace BinaryFormat

/-- The format of 32 bits. -/
def single : BinaryFormat := ⟨24, -149, 104⟩

/-- The format of 64 bits. -/
def double : BinaryFormat := ⟨53, -1074, 971⟩

end BinaryFormat

/-- A floating-point value; a finite one is its significand times that power of two. -/
inductive Binary where
  | nan
  | infinite (negative : Bool)
  | finite (negative : Bool) (significand : Nat) (exponent : Int)
  deriving DecidableEq, Repr, Inhabited

namespace Binary

/-- A value is finite when it is neither an infinity nor a NaN. -/
def isFinite : Binary → Bool
  | .finite .. => true
  | _ => false

/-- A value is zero when it is finite and has no significand. -/
def isZero : Binary → Bool
  | .finite _ significand _ => significand == 0
  | _ => false

/-- A power of two that scales a numerator or, turned over, a denominator. -/
def scale (num den : Nat) (exponent : Int) : Nat × Nat :=
  match exponent with
  | .ofNat n => (num * Nat.pow 2 n, den)
  | .negSucc n => (num, den * Nat.pow 2 (n + 1))

/-- The whole number next to a quotient; half a unit goes to the even neighbour. -/
def roundQuotient (num den : Nat) : Nat :=
  let whole := num / den
  let rest := num % den
  if 2 * rest < den then whole
  else if den < 2 * rest then whole + 1
  -- A tie goes to the even one of the two.
  else whole + whole % 2

/-- The value of a format next to a quotient, a zero keeping the sign. -/
def round (format : BinaryFormat) (negative : Bool) (num den : Nat) : Binary :=
  if num = 0 then .finite negative 0 format.least
  else
    -- With this unit the quotient has the wanted number of bits, or one more.
    let guess := max ((num.log2 : Int) - (den.log2 : Int) - format.precision) format.least
    let unit :=
      let (n, d) := scale num den (-guess)
      if n / d < Nat.pow 2 format.precision then guess else guess + 1
    let (n, d) := scale num den (-unit)
    let rounded := roundQuotient n d
    -- Rounding up can reach the next power of two, which has a larger unit.
    let (significand, exponent) :=
      if rounded = Nat.pow 2 format.precision then (rounded / 2, unit + 1) else (rounded, unit)
    if format.greatest < exponent then .infinite negative
    else .finite negative significand exponent

/-- The value of a format next to a whole number. -/
def ofInt (format : BinaryFormat) (n : Int) : Binary :=
  round format (decide (n < 0)) n.natAbs 1

/-- The value of a format next to a decimal: digits times a power of ten. -/
def ofDecimal (format : BinaryFormat) (negative : Bool) (digits : Nat) (exponent : Int) : Binary :=
  match exponent with
  | .ofNat n => round format negative (digits * Nat.pow 10 n) 1
  | .negSucc n => round format negative digits (Nat.pow 10 (n + 1))

/-- The same value in another format, or the one next to it there. -/
def convert (format : BinaryFormat) : Binary → Binary
  | .nan => .nan
  | .infinite negative => .infinite negative
  | .finite negative significand exponent =>
    -- The value is taken exactly and rounded once.
    let (num, den) := scale significand 1 exponent
    round format negative num den

/-- The value with the other sign. -/
def negate : Binary → Binary
  | .nan => .nan
  | .infinite negative => .infinite !negative
  | .finite negative significand exponent => .finite (!negative) significand exponent

/-- The product of two finite values, rounded once; no other product is ever asked for. -/
def mul (format : BinaryFormat) : Binary → Binary → Binary
  | .finite a m e, .finite b n f =>
    let (num, den) := scale (m * n) 1 (e + f)
    round format (a != b) num den
  | _, _ => .nan

/-- The quotient of two finite values, rounded once; the divisor is not zero. -/
def div (format : BinaryFormat) : Binary → Binary → Binary
  | .finite a m e, .finite b n f =>
    let (num, den) := scale m n (e - f)
    round format (a != b) num den
  | _, _ => .nan

/-- A finite value is whole when it has no fraction. -/
def isWhole : Binary → Bool
  | .finite _ significand (.negSucc n) => significand % Nat.pow 2 (n + 1) == 0
  | .finite _ _ (.ofNat _) => true
  | _ => false

/-- The whole part of the magnitude of a finite value. -/
def magnitude : Binary → Nat
  | .finite _ significand (.negSucc n) => significand / Nat.pow 2 (n + 1)
  | .finite _ significand (.ofNat n) => significand * Nat.pow 2 n
  | _ => 0

/-- The sign bit of a value that has one. -/
def isNegative : Binary → Bool
  | .nan => false
  | .infinite negative => negative
  | .finite negative _ _ => negative

end Binary

end ShadeBake
