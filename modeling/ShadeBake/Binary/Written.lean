import ShadeBake.Binary.Shortest

/-! The decimal texts of floating-point values. -/

namespace ShadeBake

/-- How the shortest digits of a value are laid out. -/
structure DecimalLayout where
  tie : Tie
  positional : Int → Bool
  pointZero : Bool
  plusSign : Bool

namespace DecimalLayout

/-- JSON numbers are positional from 0.00001 up to below 10^16 and always show that they are no integers. -/
def json : DecimalLayout :=
  ⟨.even, fun leading => -5 ≤ leading && leading < 16, true, true⟩

/-- Plain numbers are always positional and show a point only before a fraction. -/
def plain : DecimalLayout :=
  ⟨.up, fun _ => true, false, false⟩

/-- Numbers in messages are positional from 0.0001 up to below 10^16 and always show a point there. -/
def message : DecimalLayout :=
  ⟨.up, fun leading => -4 ≤ leading && leading < 16, true, false⟩

end DecimalLayout

namespace Decimal

/-- The digits of a number. -/
def digitsOf (n : Nat) : List Char :=
  Nat.toDigits 10 n

/-- Digits with the point where the exponent wants it, zeros filled in. -/
def positionalText (layout : DecimalLayout) (decimal : Decimal) : List Char :=
  let ds := digitsOf decimal.digits
  match decimal.exponent with
  | .ofNat n => ds ++ List.replicate n '0' ++ (if layout.pointZero then ['.', '0'] else [])
  | .negSucc n =>
    let places := n + 1
    -- The point falls among the digits, or in front of zeros that lead up to them.
    if places < ds.length then
      ds.take (ds.length - places) ++ '.' :: ds.drop (ds.length - places)
    else
      '0' :: '.' :: (List.replicate (places - ds.length) '0' ++ ds)

/-- Digits with the point after the first, and the exponent of that digit. -/
def scientificText (layout : DecimalLayout) (leading : Int) (decimal : Decimal) : List Char :=
  -- One digit stands in front of the point, which is left out if no other follows.
  let fraction := (digitsOf decimal.digits).drop 1
  (digitsOf decimal.digits).take 1
    ++ (if fraction = [] then [] else '.' :: fraction)
    ++ 'e' :: (if leading < 0 then ['-'] else if layout.plusSign then ['+'] else [])
    ++ digitsOf leading.natAbs

/-- The text of a positive decimal. -/
def text (layout : DecimalLayout) (decimal : Decimal) : List Char :=
  let leading := decimal.exponent + ((digitsOf decimal.digits).length : Int) - 1
  if layout.positional leading then positionalText layout decimal
  else scientificText layout leading decimal

end Decimal

namespace Binary

/-- A sign in front of a text. -/
def signed (negative : Bool) (text : List Char) : List Char :=
  if negative then '-' :: text else text

/-- The shortest text of a value. -/
def text (format : BinaryFormat) (layout : DecimalLayout) : Binary → List Char
  | .nan => ['N', 'a', 'N']
  | .infinite negative => signed negative ['i', 'n', 'f']
  | .finite negative significand exponent =>
    signed negative <|
      if significand = 0 then
        '0' :: (if layout.pointZero then ['.', '0'] else [])
      else (shortest format layout.tie significand exponent).text layout

/-- The text of a value in shader source: all digits of a whole number and one zero after the point,
the shortest digits of any other. -/
def sourceText (format : BinaryFormat) (value : Binary) : List Char :=
  if value.isWhole then
    signed value.isNegative (Decimal.digitsOf value.magnitude ++ ['.', '0'])
  else value.text format .plain

end Binary

end ShadeBake
