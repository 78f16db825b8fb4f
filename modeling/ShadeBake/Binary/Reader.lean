import ShadeBake.Binary.Basic

/-! Reading numbers from free text, as an attribute of a definition file gives them. -/

namespace ShadeBake

namespace Decimal

/-- A character is a digit when it is one of the ten ASCII digits. -/
def isDigit (c : Char) : Bool :=
  '0' ≤ c && c ≤ '9'

/-- The number that a run of digits writes. -/
def numberOf (digits : List Char) : Nat :=
  digits.foldl (fun n c => 10 * n + (c.toNat - '0'.toNat)) 0

/-- A sign, if any, and the text after it. -/
def splitSign : List Char → Bool × List Char
  | '-' :: rest => (true, rest)
  | '+' :: rest => (false, rest)
  | text => (false, text)

/-- The exponent that ends a decimal: none, or a marker with an optional sign and digits. -/
def readExponent? : List Char → Option Int
  | [] => some 0
  | c :: rest =>
    if c = 'e' || c = 'E' then
      let (negative, digits) := splitSign rest
      if digits ≠ [] && digits.all isDigit then
        some (if negative then -(numberOf digits : Int) else numberOf digits)
      else none
    else none

/-- The fraction and exponent of a decimal after its whole digits. -/
def readTail? : List Char → Option (List Char × Int)
  | '.' :: rest =>
    (readExponent? (rest.dropWhile isDigit)).map (rest.takeWhile isDigit, ·)
  | text => (readExponent? text).map ([], ·)

end Decimal

namespace Binary

/-- The value next to digits times a power of ten, also where that power is out of all proportion. -/
def ofDigits (format : BinaryFormat) (negative : Bool) (digits : List Char) (exponent : Int) : Binary :=
  let n := Decimal.numberOf digits
  let leading := exponent + (Nat.toDigits 10 n).length
  if n = 0 then .finite negative 0 format.least
  -- No format reaches 2000 decimal digits to either side of the point.
  else if 2000 < leading then .infinite negative
  else if leading < -2000 then .finite negative 0 format.least
  else ofDecimal format negative n exponent

/-- The value that a text writes: a signed decimal with digits on either side of its point, or the name of
an infinity or of NaN in any case. -/
def ofText? (format : BinaryFormat) (text : List Char) : Option Binary :=
  let (negative, unsigned) := Decimal.splitSign text
  let name := String.ofList (unsigned.map Char.toLower)
  if name = "inf" || name = "infinity" then some (.infinite negative)
  else if name = "nan" then some .nan
  else
    -- A digit must stand on one side of the point at least.
    let whole := unsigned.takeWhile Decimal.isDigit
    match Decimal.readTail? (unsigned.dropWhile Decimal.isDigit) with
    | none => none
    | some (fraction, exponent) =>
      if whole = [] && fraction = [] then none
      else some (ofDigits format negative (whole ++ fraction) (exponent - fraction.length))

end Binary

/-- The integer of 64 bits that a text writes: digits with an optional sign, in range. -/
def readInteger? (text : List Char) : Option Int :=
  let (negative, digits) := Decimal.splitSign text
  if digits ≠ [] && digits.all Decimal.isDigit then
    let n : Int := if negative then -(Decimal.numberOf digits : Int) else Decimal.numberOf digits
    -- The values are those of 64 bits with a sign.
    if -0x8000000000000000 ≤ n && n < 0x8000000000000000 then some n else none
  else none

end ShadeBake
