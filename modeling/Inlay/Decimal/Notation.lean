/-
  Inlay.Decimal.Notation
  ────────────────────────────────
  **HOW A FLOAT IS WRITTEN.**

  The shortest digits that read back, positionally when the leading digit
  counts between 10^-4 and 10^15, otherwise with a signed exponent of at
  least two digits.  A whole number keeps one zero behind the point.
-/
import Inlay.Decimal.Shortest

namespace Inlay.Decimal

/-- The digits of a number. -/
def digitsOf (n : Nat) : List Char := Nat.toDigits 10 n

/-- Digits with the decimal point after the first `point` of them. -/
def positional (digits : List Char) (point : Int) : List Char :=
  if point ≤ 0 then '0' :: '.' :: (List.replicate (-point).toNat '0' ++ digits)
  else if digits.length ≤ point.toNat then
    digits ++ List.replicate (point.toNat - digits.length) '0' ++ ['.', '0']
  else digits.take point.toNat ++ '.' :: digits.drop point.toNat

/-- Digits with the point after the first one and the exponent of that digit. -/
def scientific (digits : List Char) (exponent : Int) : List Char :=
  let size := digitsOf exponent.natAbs
  digits.take 1 ++ (if digits.length = 1 then [] else '.' :: digits.drop 1)
    ++ 'e' :: (if exponent < 0 then '-' else '+')
    :: (List.replicate (2 - size.length) '0' ++ size)

/-- The text of a float without its sign. -/
def magnitude (bits : UInt64) : List Char :=
  let x := Binary.ofBits bits
  if x.mantissa = 0 then ['0', '.', '0']
  else
    let d := x.shortest
    let digits := digitsOf d.digits
    let point : Int := digits.length + d.exponent
    if -4 < point && point ≤ 16 then positional digits point else scientific digits (point - 1)

/-- The text of a float. -/
def floatText (x : Float) : String :=
  if x.isNaN then "nan"
  else
    let sign := if x.toBits >>> 63 = 1 then "-" else ""
    if x.isInf then sign ++ "inf" else sign ++ String.ofList (magnitude x.toBits)

end Inlay.Decimal
