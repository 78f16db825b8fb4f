import ShadeBake.Binary.Reader
import ShadeBake.Json.Basic

/-! Reading JSON numbers: integers exactly, all others by one floating-point multiplication or division.

A number with a fraction or exponent is not rounded correctly as a whole. Its digits are gathered into a
significand of 64 bits, which is rounded to a floating-point value and scaled by a rounded power of ten. -/

namespace ShadeBake

namespace Numeral

/-- The greatest significand. -/
def limit : Nat := 0xFFFFFFFFFFFFFFFF

/-- The decimal value of a digit. -/
def digit (c : Char) : Nat :=
  c.toNat - '0'.toNat

/-- A significand with the leading digits of a run appended, as many as fit, and the digits left over. -/
def gather (significand : Nat) : List Char → Nat × List Char
  | [] => (significand, [])
  | c :: rest =>
    -- The first digit that does not fit ends the significand, even if later ones would fit.
    if limit < 10 * significand + digit c then (significand, c :: rest)
    else gather (10 * significand + digit c) rest

/-- A power of ten as a floating-point value. -/
def powerOfTen (n : Nat) : Binary :=
  .ofDecimal .double false 1 n

/-- The greatest power of ten that is a floating-point value. -/
def greatestPower : Nat := 308

/-- A value scaled by a power of ten; none when the result would be too large. Dividing thrice by the
greatest power turns every significand into zero, so the count of divisions is small. -/
def scaled : Nat → Binary → Int → Option Binary
  | divisions, value, exponent =>
    if exponent.natAbs ≤ greatestPower then
      if 0 ≤ exponent then
        let product := value.mul .double (powerOfTen exponent.natAbs)
        if product.isFinite then some product else none
      else some (value.div .double (powerOfTen exponent.natAbs))
    else if value.isZero then some value
    else if 0 ≤ exponent then none
    else
      match divisions with
      | 0 => some value
      | divisions + 1 =>
        scaled divisions (value.div .double (powerOfTen greatestPower)) (exponent + greatestPower)

/-- The value of a significand and a power of ten. -/
def ofParts (negative : Bool) (significand : Nat) (exponent : Int) : Option Number :=
  (scaled 4 (.ofInt .double significand) exponent).map fun value =>
    .real (if negative then value.negate else value)

/-- The value of an integer: exact if it is one of 64 bits, and negative zero is none. -/
def ofInteger (negative : Bool) (significand : Nat) : Number :=
  if negative then
    if significand = 0 || 0x8000000000000000 < significand then .real (.negate (.ofInt .double significand))
    else .integer (-(significand : Int))
  else .integer significand

/-- An exponent kept within 32 bits. -/
def clamp (exponent : Int) : Int :=
  max (-0x80000000) (min 0x7FFFFFFF exponent)

/-- The value with a written exponent; one of more than 31 bits makes zero or is too large. -/
def withExponent (negative : Bool) (significand : Nat) (start : Int) (down : Bool) (digits : List Char) :
    Option Number :=
  let exponent : Int := Decimal.numberOf digits
  -- So large an exponent decides alone, without regard to where the point stood.
  if 0x80000000 ≤ exponent then
    if significand ≠ 0 && !down then none else some (.real (.finite negative 0 BinaryFormat.double.least))
  else ofParts negative significand (clamp (if down then start - exponent else start + exponent))

/-- The sign of an exponent and the text after it. -/
def splitExponent : List Char → Bool × List Char
  | '-' :: rest => (true, rest)
  | '+' :: rest => (false, rest)
  | text => (false, text)

/-- The end of a number after its significand: the exponent, if any, and the text after the number. The
outer result is none when the text is malformed, the inner when the number is too large. -/
def finish (negative : Bool) (significand : Nat) (exponent : Int) (text : List Char) :
    Option (Option Number × List Char) :=
  match text with
  | c :: rest =>
    if c = 'e' || c = 'E' then
      let (down, rest) := splitExponent rest
      let digits := rest.takeWhile Decimal.isDigit
      -- An exponent needs a digit.
      if digits = [] then none
      else some (withExponent negative significand exponent down digits, rest.dropWhile Decimal.isDigit)
    else some (ofParts negative significand exponent, text)
  | [] => some (ofParts negative significand exponent, [])

/-- The end of a number after its whole digits, of which `dropped` did not fit the significand. -/
def afterWhole (negative : Bool) (significand dropped : Nat) (text : List Char) :
    Option (Option Number × List Char) :=
  match text with
  | '.' :: rest =>
    let digits := rest.takeWhile Decimal.isDigit
    -- Each further digit that fits lowers the exponent, and the others are dropped for good.
    let (significand, unused) := gather significand digits
    if digits = [] then none
    else
      finish negative significand (dropped - (digits.length - unused.length : Nat))
        (rest.dropWhile Decimal.isDigit)
  | c :: _ =>
    if c = 'e' || c = 'E' || dropped ≠ 0 then finish negative significand dropped text
    else some (some (ofInteger negative significand), text)
  | [] =>
    if dropped ≠ 0 then finish negative significand dropped text
    else some (some (ofInteger negative significand), text)

/-- The number that begins a text without its sign, and the text after it. -/
def readUnsigned (negative : Bool) (text : List Char) : Option (Option Number × List Char) :=
  let digits := text.takeWhile Decimal.isDigit
  let rest := text.dropWhile Decimal.isDigit
  match digits with
  | [] => none
  | first :: more =>
    -- A leading zero stands alone.
    if first = '0' && more ≠ [] then none
    else
      let (significand, unused) := gather 0 digits
      afterWhole negative significand unused.length rest

/-- The number that begins a text, and the text after it. -/
def read (text : List Char) : Option (Option Number × List Char) :=
  match text with
  | '-' :: rest => readUnsigned true rest
  | _ => readUnsigned false text

end Numeral

end ShadeBake
